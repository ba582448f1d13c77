import RpcTelemetry.Install.Filter
import RpcTelemetry.Session.Report

/-!
# Installing the telemetry of a process

Installation happens once. It makes a provider and the trace-context propagator the global ones and
collects the log in lines, unless someone else collects log entries already. It looks first whether
it may, and then does one thing after the other.
-/

namespace RpcTelemetry

/-- Why an installation is refused. -/
inductive InstallError where
  | alreadyInstalled
  | subscriberAlreadySet
  /-- Someone else became the global collector after the installation had looked for one. -/
  | subscriberRefused
  deriving DecidableEq, Repr

/-- The text of the error. -/
def InstallError.message : InstallError → String
  | .alreadyInstalled => "spark-otel-rpc 已完成安装，禁止重复调用 install"
  | .subscriberAlreadySet => "全局 tracing Subscriber 已存在，spark-otel-rpc 无法覆盖"
  | .subscriberRefused =>
    "设置 tracing 全局 Subscriber 失败: a global default trace dispatcher has already been set"

/-- Who collects log entries that no thread collects for itself. -/
inductive Subscriber where
  | nobody
  /-- The one that installation brings. -/
  | installed
  /-- Some other one. -/
  | foreign
  deriving DecidableEq, Repr

/-- A process: its telemetry, whether it was installed, who collects log entries globally, and
whether the main thread collects its own. -/
structure Process where
  world : World
  installed : Bool
  subscriber : Subscriber
  threadCollects : Bool

namespace Process

/-- A process that has just started. -/
def fresh : Process := ⟨.empty, false, .nobody, false⟩

instance : Inhabited Process := ⟨fresh⟩

/-- Whether anyone was ever made a collector of log entries. -/
def hasSubscriber (process : Process) : Bool :=
  process.threadCollects || process.subscriber ≠ .nobody

/-- Makes a propagator the global one. -/
def setPropagator (process : Process) (propagator : Propagator) : Process :=
  { process with world := { process.world with
      globals := { process.world.globals with propagator } } }

/-- Makes a provider the global one. -/
def setTracer (process : Process) (provider : Nat) : Process :=
  { process with world := { process.world with
      globals := { process.world.globals with tracer := some provider } } }

/-- Makes someone the global collector, if there is none yet, and tells whether it worked. -/
def setSubscriber (process : Process) (subscriber : Subscriber) : Process × Bool :=
  if process.subscriber = .nobody then ({ process with subscriber }, true) else (process, false)

/-- Notes that the process is installed, if that was not noted before, and tells whether it
worked. -/
def setInstalled (process : Process) : Process × Bool :=
  if process.installed then (process, false) else ({ process with installed := true }, true)

/-- Installs a provider of the process. After two checks come four writes, of which the last two can
be refused; what was written before stays. -/
def install (process : Process) (provider : Nat) : Process × Except InstallError Unit :=
  if process.installed then (process, .error .alreadyInstalled)
  else if process.hasSubscriber then (process, .error .subscriberAlreadySet)
  else
    match ((process.setPropagator TraceContext.propagator).setTracer provider).setSubscriber
      .installed with
    | (process, false) => (process, .error .subscriberRefused)
    | (process, true) =>
      match process.setInstalled with
      | (process, false) => (process, .error .alreadyInstalled)
      | (process, true) => (process, .ok ())

/-- Whether an entry reaches the collector of the installation: the main thread may collect its own
entries, other threads do not. -/
def prints (process : Process) (record : Log.Record) : Bool :=
  process.subscriber = .installed && (record.worker || !process.threadCollects)

/-- Whether log entries of the main thread reach some other collector. -/
def forwardsLog (process : Process) : Bool :=
  process.threadCollects || process.subscriber = .foreign

end Process

end RpcTelemetry
