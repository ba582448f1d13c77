import RpcTelemetry.Session.Choice

/-!
# Scripts

A session runs a script over named handlers and calls. `State.step` runs one step and tells what
came of it. A span lives as long as a handle or an attached context holds it.
-/

namespace RpcTelemetry.Session

/-- Where the parent of a call comes from. -/
inductive ParentSpec where
  | empty
  | current
  | call (name : String)
  | remote (trace : BitVec 128) (span : BitVec 64) (flags : BitVec 8)
      (members : List (List Char × List Char))
  deriving DecidableEq, Repr

/-- Where the incoming metadata of a call come from. -/
inductive IncomingSpec where
  | fields (fields : List (String × String))
  /-- The outgoing metadata of another call. -/
  | call (name : String)
  deriving DecidableEq, Repr

/-- How a call is tagged. -/
structure TagSpec where
  handler : String
  call : String
  info : CallInfo
  incoming : IncomingSpec
  outgoing : List (String × String)
  peer : Option Peer
  parent : ParentSpec

/-- One step of a script. -/
inductive Step where
  | handler (name : String) (spec : HandlerSpec)
  | tag (spec : TagSpec)
  | event (call : String) (handler : Option String) (event : Event) (times : Nat)
  /-- As many threads for each direction, each delivering that many messages of it. -/
  | concurrent (call : String) (inbound outbound threads : Nat)
  | view (call : String)
  | clone (call other : String)
  | detach (call other : String)
  | bare (call handler : String) (parent : ParentSpec) (outgoing : List (String × String))
      (peer : Option Peer)
  | drop (call : String)
  | attach (call : String)
  | release
  | spanAttribute (call : String) (added : Attribute)
  | spanStatus (call : String) (status : SpanStatus)
  | spanEnd (call : String)
  | childSpan (call name : String)
  | connection (handler : String) (remote own : Option Peer)
  | measurements (instrument attributeKey : String)
  | resetMeter
  | resetExporter
  | dropProvider
  | unknown (name : String)

/-- Why a step could not be run. -/
inductive StepError where
  | noSuchCall
  | noSuchHandler
  | unknownStep (name : String)
  | badMember (fault : TraceState.MemberError)
  deriving DecidableEq, Repr

/-- A call as it stands: its cell, whether its span is recording, and its handle. -/
structure CallView where
  cell : Cell
  recording : Bool
  handle : Handle

/-- What came of a step. -/
inductive Answer where
  | built (options : HandlerOptions)
  | tagged (view : CallView) (rejected : List Metadata.WriteError) (filterSeen : List CallInfo)
      (keysSeen : List String)
  | delivered (kind : Option String) (view : CallView)
  | viewed (view : CallView)
  | dropped (present : Bool)
  | attached (depth : Nat)
  | released (present : Bool) (depth : Nat)
  | done
  | connected (remote own : Option Peer)
  | found (measurements : List (Measurement × Option AttributeValue))
  | exportedCount (count : Nat)
  | failed (error : StepError)

/-- A handler with the choices it was built from. -/
structure NamedHandler where
  spec : HandlerSpec
  handler : Handler

/-- A call with the name of its handler. -/
structure NamedCall where
  handler : String
  handle : Handle

/-- Who keeps the provider of a session. -/
inductive Backing where
  /-- The session alone. -/
  | own
  /-- The preset options, by which a handler always has the tracer, the meter and a propagator of
  the session. -/
  | preset
  /-- The process, in which other sessions follow. -/
  | process
  deriving DecidableEq, Repr

/-- A session: the telemetry of its process, its handlers and calls, its provider until that is
dropped, the provider whose exported spans it counts and forgets, and its meter. -/
structure State where
  world : World
  handlers : Keyed NamedHandler
  calls : Keyed NamedCall
  provider : Option Nat
  exporter : Option Nat
  meter : Nat
  backing : Backing

namespace State

/-- The contexts that hold spans: those of all calls and the attached ones. -/
def held (state : State) : List Context :=
  state.calls.entries.map (·.2.handle.context) ++ state.world.attached

/-- A call by name. -/
def call? (state : State) (name : String) : Except StepError NamedCall :=
  match state.calls.get? name with
  | some call => .ok call
  | none => .error .noSuchCall

/-- A handler by name. -/
def handler? (state : State) (name : String) : Except StepError NamedHandler :=
  match state.handlers.get? name with
  | some handler => .ok handler
  | none => .error .noSuchHandler

/-- The call of a handle as it stands. -/
def viewOf (state : State) (handle : Handle) : CallView where
  cell := state.world.cellOf handle.cell
  recording := (state.world.spanOf handle.context).isRecording
  handle := handle

/-- Lets a context go: its span ends unless it is still held. -/
def letGo (state : State) (context : Context) : State :=
  { state with world := state.world.release state.held context }

/-- Stores a call under a name; the one that had the name before is let go. -/
def store (state : State) (name : String) (call : NamedCall) : State :=
  let stored := { state with calls := state.calls.insert name call }
  match state.calls.get? name with
  | none => stored
  | some former => stored.letGo former.handle.context

/-- The context that a parent stands for. -/
def parent (state : State) : ParentSpec → Except StepError Context
  | .empty => .ok .empty
  | .current => .ok state.world.current
  | .call name => do return (← state.call? name).handle.context
  | .remote trace span flags members =>
    match TraceState.ofMembers members with
    | .ok tracestate => .ok (.remote ⟨trace, span, flags, true, tracestate⟩)
    | .error fault => .error (.badMember fault)

/-- The incoming metadata of a call and the errors of the fields that were left out. -/
def incoming (state : State) :
    IncomingSpec → Except StepError (Metadata × List Metadata.WriteError)
  | .fields fields => .ok (Metadata.empty.insertAll fields)
  | .call name => do return ((← state.call? name).handle.rpc.outgoing, [])

/-- Whether the options of handlers are preset. -/
def isPreset (state : State) : Bool := state.backing = .preset

/-- The provider whose exported spans are reported: that of preset options, or the one whose spans
are counted. -/
def reported (state : State) : Option Nat :=
  if state.isPreset then state.provider else state.exporter

/-- The options that the choices for a handler give. -/
def options (state : State) (spec : HandlerSpec) : HandlerOptions where
  propagator :=
    match spec.propagator with
    | .global => if state.isPreset then some TraceContext.propagator else none
    | choice => choice.propagator?
  tracer := if spec.globalTracer && !state.isPreset then none else state.provider
  meter := if spec.globalMeter && !state.isPreset then none else some state.meter
  filter := spec.filter.map FilterChoice.accepts
  policy := spec.policy.policy

/-- Builds a handler. -/
def addHandler (state : State) (name : String) (spec : HandlerSpec) : State × Answer :=
  let options := state.options spec
  let (world, handler) := state.world.buildHandler spec.side options
  ({ state with world, handlers := state.handlers.insert name ⟨spec, handler⟩ }, .built options)

/-- The keys that reading the metadata of an inbound call shows to a propagator of fixed fields. -/
def keysSeen (named : NamedHandler) (incoming : Metadata) : List String :=
  match named.spec.side, named.spec.propagator with
  | .server, .fixed _ => incoming.keys
  | _, _ => []

/-- Tags a call. -/
def tag (state : State) (spec : TagSpec) : Except StepError (State × Answer) := do
  let (incoming, incomingErrors) ← state.incoming spec.incoming
  let parent ← state.parent spec.parent
  let named ← state.handler? spec.handler
  let (outgoing, outgoingErrors) := Metadata.empty.insertAll spec.outgoing
  let rpc : CallContext := ⟨incoming, outgoing, spec.peer⟩
  let (world, handle) := state.world.tag named.handler parent rpc spec.info
  let after := { state with world }.store spec.call ⟨spec.handler, handle⟩
  let filterSeen := if named.handler.filter.isSome then [spec.info] else []
  return (after, .tagged (after.viewOf handle) (incomingErrors ++ outgoingErrors) filterSeen
    (keysSeen named incoming))

/-- Delivers an event, through the handler of its call or another one. To deliver it no times takes
no handler. -/
def event (state : State) (name : String) (handler : Option String) (event : Event) (times : Nat) :
    Except StepError (State × Answer) := do
  let call ← state.call? name
  let world ←
    if times = 0 then pure state.world
    else do
      let named ← state.handler? (handler.getD call.handler)
      pure (state.world.deliverTimes named.handler call.handle event times)
  let after := { state with world }
  return (after, .delivered (some event.occurrence.kind) (after.viewOf call.handle))

/-- An event of a message without payload. -/
def plainMessage (direction : Direction) (length : UInt64) : Event :=
  ⟨false, .message direction ⟨none, length, length, length⟩⟩

/-- Delivers messages of both directions from several threads. In what order they land is not
settled; here the inbound ones come first. -/
def concurrent (state : State) (name : String) (inbound outbound threads : Nat) :
    Except StepError (State × Answer) := do
  let call ← state.call? name
  let named ← state.handler? call.handler
  let world := state.world.deliverTimes named.handler call.handle (plainMessage .inbound 64)
    (inbound * threads)
  let world := world.deliverTimes named.handler call.handle (plainMessage .outbound 32)
    (outbound * threads)
  let after := { state with world := state.world.markWorkers world }
  return (after, .delivered none (after.viewOf call.handle))

/-- Stores a handle that knows no more than a context. -/
def addDetached (state : State) (name handler : String) (rpc : CallContext) (context : Context) :
    State × Answer :=
  let (world, handle) := state.world.detach rpc context
  let after := { state with world }.store name ⟨handler, handle⟩
  (after, .viewed (after.viewOf handle))

/-- Stores a clone of a handle. -/
def clone (state : State) (name other : String) : Except StepError (State × Answer) := do
  let call ← state.call? name
  let cloned := { call with handle := call.handle.clone }
  let after := state.store other cloned
  return (after, .viewed (after.viewOf cloned.handle))

/-- Stores a handle made from the parts of another one. -/
def detach (state : State) (name other : String) : Except StepError (State × Answer) := do
  let call ← state.call? name
  return state.addDetached other call.handler call.handle.rpc call.handle.context

/-- Stores a handle made from a parent context. -/
def bare (state : State) (name handler : String) (parent : ParentSpec)
    (outgoing : List (String × String)) (peer : Option Peer) :
    Except StepError (State × Answer) := do
  let context ← state.parent parent
  let rpc : CallContext := ⟨.empty, (Metadata.empty.insertAll outgoing).1, peer⟩
  return state.addDetached name handler rpc context

/-- Drops a handle. -/
def drop (state : State) (name : String) : State × Answer :=
  match state.calls.get? name with
  | none => (state, .dropped false)
  | some call =>
    ({ state with calls := state.calls.erase name }.letGo call.handle.context, .dropped true)

/-- Makes the context of a call the current one. -/
def attach (state : State) (name : String) : Except StepError (State × Answer) := do
  let call ← state.call? name
  let attached := call.handle.context :: state.world.attached
  return ({ state with world := { state.world with attached } }, .attached attached.length)

/-- Takes back the last attached context. -/
def release (state : State) : State × Answer :=
  match state.world.attached with
  | [] => (state, .released false 0)
  | context :: attached =>
    ({ state with world := { state.world with attached } }.letGo context,
      .released true attached.length)

/-- Changes the span of a call from outside. -/
def changeSpan (state : State) (name : String) (change : Span → Span) :
    Except StepError (State × Answer) := do
  let call ← state.call? name
  return ({ state with world := state.world.changeSpan call.handle.context change }, .done)

/-- Ends the span of a call from outside. -/
def endSpan (state : State) (name : String) : Except StepError (State × Answer) := do
  let call ← state.call? name
  let after := { state with world := state.world.finishSpan call.handle.context }
  return (after, .delivered none (after.viewOf call.handle))

/-- Starts a span below the context of a call and lets it go at once. -/
def childSpan (state : State) (name spanName : String) : Except StepError (State × Answer) := do
  let call ← state.call? name
  let tracer := state.provider.or state.world.globals.tracer
  let (world, _) := state.world.briefSpan tracer ⟨"app", ""⟩ call.handle.context spanName
  return ({ state with world }, .done)

/-- The measurements of an instrument with their values of an attribute. -/
def measurements (state : State) (instrument attributeKey : String) : Answer :=
  let found := (state.world.meterAt state.meter).measurementsOf instrument
  .found (found.map fun measurement =>
    (measurement, Attribute.find? attributeKey measurement.attributes))

/-- Forgets all measurements. -/
def resetMeter (state : State) : State :=
  { state with world := { state.world with
      meters := state.world.meters.modify state.meter Meter.reset } }

/-- Forgets the exported spans, those under preset options apart. -/
def resetExporter (state : State) : State :=
  { state with world := state.world.forgetExported state.exporter }

/-- Lets the provider of the session go, and tells how many exported spans there are. If nobody else
keeps the provider, it is dropped and its spans are forgotten; preset options keep it for the
session too. -/
def dropProvider (state : State) : State × Answer :=
  let after :=
    match state.backing, state.provider with
    | .own, some index => { state with world := state.world.dropProvider index, provider := none }
    | .process, _ => { state with provider := none }
    | _, _ => state
  (after, .exportedCount (after.world.exportedBy after.exporter).length)

/-- Runs a step that may fail; a failing one changes nothing. -/
def orFail (state : State) (result : Except StepError (State × Answer)) : State × Answer :=
  match result with
  | .ok result => result
  | .error error => (state, .failed error)

/-- Runs one step. -/
def step (state : State) : Step → State × Answer
  | .handler name spec => state.addHandler name spec
  | .tag spec => state.orFail (state.tag spec)
  | .event name handler event times => state.orFail (state.event name handler event times)
  | .concurrent name inbound outbound threads =>
    state.orFail (state.concurrent name inbound outbound threads)
  | .view name => state.orFail do return (state, .viewed (state.viewOf (← state.call? name).handle))
  | .clone name other => state.orFail (state.clone name other)
  | .detach name other => state.orFail (state.detach name other)
  | .bare name handler parent outgoing peer =>
    state.orFail (state.bare name handler parent outgoing peer)
  | .drop name => state.drop name
  | .attach name => state.orFail (state.attach name)
  | .release => state.release
  | .spanAttribute name added => state.orFail (state.changeSpan name (·.setAttribute added))
  | .spanStatus name status => state.orFail (state.changeSpan name (·.setStatus status))
  | .spanEnd name => state.orFail (state.endSpan name)
  | .childSpan name spanName => state.orFail (state.childSpan name spanName)
  | .connection name remote own =>
    state.orFail do
      let _ ← state.handler? name
      return (state, .connected remote own)
  | .measurements instrument attributeKey => (state, state.measurements instrument attributeKey)
  | .resetMeter => (state.resetMeter, .done)
  | .resetExporter => (state.resetExporter, .done)
  | .dropProvider => state.dropProvider
  | .unknown name => (state, .failed (.unknownStep name))

/-- Takes back all attached contexts, the last one first. -/
def releaseAll (state : State) : Nat → State
  | 0 => state
  | more + 1 => (state.release.1).releaseAll more

/-- Ends the session: attached contexts are taken back, then the calls are dropped in the order of
their names. -/
def finish (state : State) : State :=
  (state.calls.keys).foldl (fun state name => (state.drop name).1)
    (state.releaseAll state.world.attached.length)

end State

end RpcTelemetry.Session
