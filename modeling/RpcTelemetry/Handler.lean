import RpcTelemetry.Method
import RpcTelemetry.World

/-!
# Handlers

A handler serves calls in one role. Its tracer, meter and filter are settled when it is built; the
propagator, if not given, is looked up at every call. Tagging a call starts its span and gives a
handle, through which the events of the call are delivered.
-/

namespace RpcTelemetry

/-- What is known of a call before it starts. -/
structure CallInfo where
  fullMethod : String
  failFast : Bool
  deriving DecidableEq, Repr

/-- What the transport attaches to a call. -/
structure CallContext where
  incoming : Metadata
  outgoing : Metadata
  peer : Option Peer

/-- A filter tells which calls are recorded. -/
abbrev CallFilter := CallInfo → Bool

/-- The choices for a handler; what is left open falls back on the global defaults. -/
structure HandlerOptions where
  propagator : Option Propagator
  tracer : Option Nat
  meter : Option Nat
  filter : Option CallFilter
  policy : StatusPolicy

namespace HandlerOptions

/-- All choices left open. -/
def initial : HandlerOptions := ⟨none, none, none, none, .standard⟩

instance : Inhabited HandlerOptions := ⟨initial⟩

/-- The options in a debugging text: which choices were made. -/
def debug (options : HandlerOptions) : String :=
  let shown (name : String) (isSet : Bool) := name ++ ": " ++ if isSet then "true" else "false"
  "HandlerOptions \x7b " ++ shown "propagator" options.propagator.isSome ++ ", " ++
    shown "tracer" options.tracer.isSome ++ ", " ++ shown "meter" options.meter.isSome ++ ", " ++
    shown "filter" options.filter.isSome ++ ", .. \x7d"

end HandlerOptions

/-- A handler: its role, the provider of its tracer and its meter, if any, its own propagator, and
its filter. -/
structure Handler where
  role : Role
  tracer : Option Nat
  meter : Option Nat
  propagator : Option Propagator
  filter : Option CallFilter

/-- What identifies a call to its handler. -/
structure Handle where
  cell : Nat
  tracking : Tracking
  rpc : CallContext
  context : Context

/-- Another handle of the same call: it refers to the same cell and the same span. -/
def Handle.clone (handle : Handle) : Handle where
  cell := handle.cell
  tracking := handle.tracking
  rpc := handle.rpc
  context := handle.context

/-- The sides that a handler can be built for. -/
inductive Side where
  | server
  | client
  deriving DecidableEq, Repr

/-- The role of a side; only a server has use for a policy. -/
def Side.role (policy : StatusPolicy) : Side → Role
  | .server => .server policy
  | .client => .client

/-- The scope of the spans of calls. -/
def callScope : Scope := ⟨Convention.scopeName, Convention.scopeVersion⟩

namespace Handler

/-- The handler that options give under global defaults. -/
def ofOptions (globals : Globals) (side : Side) (options : HandlerOptions) : Handler where
  role := side.role options.policy
  tracer := options.tracer.or globals.tracer
  meter := options.meter.or globals.meter
  propagator := options.propagator
  filter := options.filter

/-- Whether calls are recorded. -/
def records (handler : Handler) (info : CallInfo) : Bool :=
  match handler.filter with
  | none => true
  | some accepts => accepts info

/-- The propagator for a call that is tagged now. -/
def propagatorIn (handler : Handler) (globals : Globals) : Propagator :=
  handler.propagator.getD globals.propagator

/-- The log entry about a call that the filter refuses. -/
def filteredEntry (handler : Handler) (info : CallInfo) : Log.Entry :=
  ⟨.debug, "rpc filtered out, recording disabled",
    [("role", .string handler.role.label), ("method", .shown info.fullMethod)]⟩

/-- The instruments that a handler makes with its meter when it is built. -/
def instruments (handler : Handler) : List (Option Nat × MeterRequest) :=
  (instrumentRequests handler.role.label).map (handler.meter, ·)

/-- A call of this handler as the delivery of its events sees it. -/
def call (handler : Handler) (handle : Handle) : Call :=
  ⟨handler.role, handle.tracking, handle.rpc.peer⟩

end Handler

namespace World

/-- Builds a handler and its instruments. If no meter is given, the global provider is asked for
one. -/
def buildHandler (world : World) (side : Side) (options : HandlerOptions) : World × Handler :=
  let handler := Handler.ofOptions world.globals side options
  let requests :=
    if options.meter.isNone && world.globals.meter.isSome then meterRequests handler.role.label
    else []
  ({ world with
      asked := world.asked ++ requests
      instruments := world.instruments ++ handler.instruments }, handler)

/-- Starts the span of a call under a context, then asks the filter. -/
def startCall (world : World) (handler : Handler) (parent : Context) (info : CallInfo) :
    World × Context × Tracking :=
  let (name, _) := Method.parse info.fullMethod
  let identity := Method.identity info.fullMethod
  let (world, context) :=
    world.startSpan handler.tracer callScope parent name handler.role.spanKind identity
  if handler.records info then (world, context, .recorded identity)
  else (world.log [handler.filteredEntry info], context, .filtered identity)

/-- Makes a handle with a cell of its own. -/
def addHandle (world : World) (tracking : Tracking) (rpc : CallContext) (context : Context) :
    World × Handle :=
  let (world, cell) := world.addCell
  (world, ⟨cell, tracking, rpc, context⟩)

/-- Tags an inbound call: the incoming metadata give the parent of its span. -/
def tagServer (world : World) (handler : Handler) (rpc : CallContext) (info : CallInfo) :
    World × Handle :=
  let propagator := handler.propagatorIn world.globals
  let parent := propagator.extract world.current .empty rpc.incoming
  let (world, context, tracking) := world.startCall handler parent info
  world.addHandle tracking rpc context

/-- Tags an outbound call under a parent: the new span is laid over the outgoing metadata. -/
def tagClient (world : World) (handler : Handler) (parent : Context) (rpc : CallContext)
    (info : CallInfo) : World × Handle :=
  let (world, context, tracking) := world.startCall handler parent info
  let fields := (handler.propagatorIn world.globals).fields context
  let (outgoing, errors) := rpc.outgoing.inject fields
  let world := world.log (errors.map Metadata.WriteError.entry)
  world.addHandle tracking { rpc with outgoing } context

/-- Tags a call in the role of its handler. A client takes the parent that is given, a server finds
its own. -/
def tag (world : World) (handler : Handler) (parent : Context) (rpc : CallContext)
    (info : CallInfo) : World × Handle :=
  match handler.role with
  | .server _ => world.tagServer handler rpc info
  | .client => world.tagClient handler parent rpc info

/-- A handle that knows of a call no more than its context. -/
def detach (world : World) (rpc : CallContext) (context : Context) : World × Handle :=
  world.addHandle .detached rpc context

/-- The progress of the call of a handle. -/
def progressOf (world : World) (handle : Handle) : Progress :=
  ⟨world.cellOf handle.cell, world.spanOf handle.context⟩

/-- Delivers an event through a handle. -/
def deliver (world : World) (handler : Handler) (handle : Handle) (event : Event) : World :=
  let (progress, output) := (handler.call handle).deliver event (world.progressOf handle)
  ((world.setCell handle.cell progress.cell).setSpan handle.context progress.span).absorb
    handle.context handler.meter output

/-- Delivers an event several times. -/
def deliverTimes (world : World) (handler : Handler) (handle : Handle) (event : Event) :
    Nat → World
  | 0 => world
  | times + 1 => (world.deliver handler handle event).deliverTimes handler handle event times

/-- Changes the active span of a context from outside. -/
def changeSpan (world : World) (context : Context) (change : Span → Span) : World :=
  world.setSpan context (change (world.spanOf context))

/-- Starts a span below a context and lets it go at once. -/
def briefSpan (world : World) (tracer : Option Nat) (scope : Scope) (parent : Context)
    (name : String) : World × SpanContext :=
  let (world, context) := world.startSpan tracer scope parent name .internal []
  (world.finishSpan context, context.identity)

end World

end RpcTelemetry
