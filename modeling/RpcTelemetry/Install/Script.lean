import RpcTelemetry.Install

/-!
# Installation scripts

A script installs telemetry in a process, sets collectors and meters, and runs sessions over the
global defaults. Its report has the lines that the installed collector printed.
-/

namespace RpcTelemetry.Install

open Session

/-- One step of an installation script. -/
inductive Step where
  /-- Installs a provider without exporter. -/
  | install
  /-- Installs a provider of one's own. -/
  | installWith (sampler : Sampler) (limits : SpanLimits)
  | scopedSubscriber
  | globalSubscriber
  | globalMeter
  /-- Tells what the global provider of meters was asked for. -/
  | globalScope
  /-- Tells whether the global tracer starts spans with an identity. -/
  | validTracer
  | session (settings : Settings) (script : List Session.Step)
  | unknown (name : String)

/-- What came of a step. -/
inductive Answer where
  | installed
  | refused (error : InstallError)
  | set
  | flag (value : Bool)
  | requests (requests : List MeterRequest)
  | session (report : Session.Report)
  | unknown (name : String)

/-- A running script: the process, the provider of the last installation tried with one, the meter
of the sessions, and the lines printed so far. -/
structure State where
  process : Process
  provider : Option Nat
  meter : Nat
  lines : List String

/-- The start of a script. -/
def State.initial : State :=
  let (world, meter) := Process.fresh.world.addMeter
  ⟨{ Process.fresh with world }, none, meter, []⟩

namespace State

/-- Tries to install a new provider. -/
def install (state : State) (provider : Provider) (ownProvider : Bool) : State × Answer :=
  let (world, index) := state.process.world.addProvider provider
  let process := { state.process with world }
  let state := { state with provider := if ownProvider then some index else state.provider }
  match process.install index with
  | (process, .ok ()) => ({ state with process }, .installed)
  | (process, .error error) => ({ state with process }, .refused error)

/-- Makes the meter of the sessions the global one. -/
def setGlobalMeter (state : State) : State :=
  let world := state.process.world
  { state with process := { state.process with world := { world with
      globals := { world.globals with meter := some state.meter } } } }

/-- Starts a span with the global tracer and tells whether it has an identity. -/
def tryTracer (state : State) : State × Bool :=
  let world := state.process.world
  let (world, identity) := world.briefSpan world.globals.tracer callScope .empty "x"
  ({ state with process := { state.process with world } }, identity.isValid)

/-- A line without blanks in front and without a carriage return at its end. -/
def bareLine (line : List Char) : String :=
  let line := if line.getLast? = some '\r' then line.dropLast else line
  String.ofList (Text.trimFront line)

/-- The lines that entries give under a filter. -/
def printed (filter : Log.Filter) (entries : List Log.Entry) : List String :=
  (entries.filter filter.passes).flatMap fun entry =>
    (Text.parts '\n' entry.line.toList).map bareLine

/-- A report without log entries. -/
def withoutLogs (report : Session.Report) : Session.Report where
  steps := report.steps.map fun step => { step with yield := { step.yield with logs := [] } }
  final := { report.final with logs := [] }

/-- The start of a session: over the provider and the meter of the process, unless its options are
preset. -/
def startSession (state : State) (settings : Settings) : Session.State :=
  let world := state.process.world
  if settings.preset then .initial settings world state.provider
  else ⟨world, .empty, .empty, state.provider, state.provider, state.meter, .process⟩

/-- Runs a session. Its log is reported if someone forwards it, and printed as far as it reaches the
installed collector. -/
def runSession (state : State) (filter : Log.Filter) (settings : Settings)
    (script : List Session.Step) : State × Answer :=
  let process := state.process
  let (report, ended) := runFrom settings (state.startSession settings) script
  let written := ended.world.logs.drop process.world.logs.length
  let lines := printed filter ((written.filter process.prints).map (·.entry))
  ({ state with process := { process with world := ended.world }, lines := state.lines ++ lines },
    .session (if process.forwardsLog then report else withoutLogs report))

/-- Runs one step. -/
def step (state : State) (filter : Log.Filter) : Step → State × Answer
  | .install => state.install .unexported false
  | .installWith sampler limits => state.install (.ofSettings sampler limits) true
  | .scopedSubscriber =>
    ({ state with process := { state.process with threadCollects := true } }, .set)
  | .globalSubscriber =>
    let (process, worked) := state.process.setSubscriber .foreign
    ({ state with process }, .flag worked)
  | .globalMeter => (state.setGlobalMeter, .set)
  | .globalScope => (state, .requests state.process.world.asked)
  | .validTracer =>
    let (state, valid) := state.tryTracer
    (state, .flag valid)
  | .session settings script => state.runSession filter settings script
  | .unknown name => (state, .unknown name)

end State

/-- Runs steps one after another. -/
def runSteps (filter : Log.Filter) : State → List Step → List Answer × State
  | state, [] => ([], state)
  | state, step :: rest =>
    let (state, answer) := state.step filter step
    let (answers, state) := runSteps filter state rest
    (answer :: answers, state)

/-- What a script came to: the answers of its steps and the lines printed. -/
structure Report where
  answers : List Answer
  lines : List String

/-- Runs a script in a fresh process; the text gives the filter of the installed collector. -/
def run (filterText : Option String) (script : List Step) : Report :=
  let (answers, state) := runSteps (.ofText filterText) .initial script
  ⟨answers, state.lines⟩

end RpcTelemetry.Install
