import RpcTelemetry.Proofs.World.Tagging

/-!
# When the configuration is bound

The global defaults of a process may be replaced at any time, between the building of handlers, the
tagging of calls and their events. What a handler takes from them is settled at different times: the
tracer and the meter when it is built, the propagator at every call.

Results:
1. `Setup.step_eq`, `Setup.run_eq`: what one move, and any moves, do to the globals, the handlers
   and the instruments. The handlers depend on the moves alone (`Move.handlersOf`).
2. `World.startSpan_by`, `World.started_tag`, `World.meters_deliver`: who starts the span of a call,
   and where its events are measured.
3. `Setup.binding_times`: what a handler starts spans with, measures with and propagates with, after
   any moves before and after it was built.
-/

namespace RpcTelemetry

/-- What a process does: it replaces global defaults, builds handlers, tags calls and delivers their
events. A handler is known by how many were built before it. -/
inductive Move where
  | setTracer (provider : Option Nat)
  | setMeter (meter : Option Nat)
  | setPropagator (propagator : Propagator)
  | build (side : Side) (options : HandlerOptions)
  | tag (handler : Nat) (parent : Context) (rpc : CallContext) (info : CallInfo)
  | deliver (handler : Nat) (handle : Handle) (event : Event)

/-- The global defaults after a move. -/
def Globals.after (globals : Globals) : Move → Globals
  | .setTracer provider => { globals with tracer := provider }
  | .setMeter meter => { globals with meter }
  | .setPropagator propagator => { globals with propagator }
  | _ => globals

namespace Move

/-- The handler that a move builds under global defaults. -/
def builds (globals : Globals) : Move → List Handler
  | .build side options => [Handler.ofOptions globals side options]
  | _ => []

/-- The handlers that moves build, from global defaults on. -/
def handlersOf : Globals → List Move → List Handler
  | _, [] => []
  | globals, move :: rest => move.builds globals ++ handlersOf (globals.after move) rest

/-- Whether a move builds a handler. -/
def isBuild : Move → Bool
  | .build _ _ => true
  | _ => false

theorem length_handlersOf (globals : Globals) (moves : List Move) :
    (handlersOf globals moves).length = moves.countP isBuild := by
  induction moves generalizing globals with
  | nil => rfl
  | cons move rest ih =>
    rw [handlersOf, List.length_append, ih, List.countP_cons]
    cases move <;> simp [builds, isBuild, Nat.add_comm]

theorem handlersOf_append (globals : Globals) (first second : List Move) :
    handlersOf globals (first ++ second) =
      handlersOf globals first ++ handlersOf (first.foldl Globals.after globals) second := by
  induction first generalizing globals with
  | nil => rfl
  | cons move rest ih =>
    rw [List.cons_append, handlersOf, handlersOf, ih, List.append_assoc, List.foldl_cons]

end Move

/-- A process with the handlers that it has built. -/
structure Setup where
  world : World
  handlers : List Handler

namespace World

variable (world : World)

/-- Tagging leaves the globals and the instruments as they are. -/
theorem settings_tag (handler : Handler) (parent : Context) (rpc : CallContext) (info : CallInfo) :
    (world.tag handler parent rpc info).1.globals = world.globals ∧
      (world.tag handler parent rpc info).1.instruments = world.instruments := by
  obtain ⟨providers, spans, logs, frame⟩ := world.tag_frame handler parent rpc info
  rw [frame]
  exact ⟨rfl, rfl⟩

/-- So does an event. -/
theorem settings_deliver (handler : Handler) (handle : Handle) (event : Event) :
    (world.deliver handler handle event).globals = world.globals ∧
      (world.deliver handler handle event).instruments = world.instruments := by
  rw [deliver_eq_commit, DeliveryLemmas.commit_eq]
  exact ⟨rfl, rfl⟩

/-- A span is started by the provider of the tracer and by no other. -/
theorem startSpan_by (tracer : Option Nat) (scope : Scope) (parent : Context) (name : String)
    (kind : SpanKind) (attributes : List Attribute) :
    let started := world.startSpan tracer scope parent name kind attributes
    (∀ index, tracer ≠ some index → started.1.providers[index]? = world.providers[index]?) ∧
      (started.2.record? = none ∧ started.1.spans = world.spans ∨
        ∃ index span, tracer = some index ∧ started.2.record? = some world.spans.length ∧
          started.1.spans = world.spans ++ [⟨index, span⟩]) := by
  intro started
  cases found : tracer.bind fun index => (world.providers[index]?).map (index, ·) with
  | none =>
    simp only [started, startSpan, found]
    exact ⟨fun _ _ => trivial, .inl ⟨rfl, trivial⟩⟩
  | some numbered =>
    obtain ⟨own, rfl, there⟩ := Option.bind_eq_some_iff.1 found
    obtain ⟨provider, -, rfl⟩ := Option.map_eq_some_iff.1 there
    have others (next : Provider) (index : Nat) (other : some own ≠ some index) :
        (world.providers.set own next)[index]? = world.providers[index]? :=
      List.getElem?_set_ne fun same => other (congrArg some same)
    simp only [started, startSpan, found]
    split
    · exact ⟨others _, .inl ⟨rfl, rfl⟩⟩
    · exact ⟨others _, .inr ⟨own, _, rfl, rfl, rfl⟩⟩

/-- Tagging starts the span of the call and no other one. -/
theorem started_tag (handler : Handler) (parent : Context) (rpc : CallContext) (info : CallInfo) :
    let tagged := world.tag handler parent rpc info
    let started := world.startCallSpan handler parent rpc info
    tagged.1.providers = started.1.providers ∧ tagged.1.spans = started.1.spans ∧
      tagged.2.context = started.2 := by
  obtain ⟨logs, tagged⟩ := world.tag_eq handler parent rpc info
  rw [tagged]
  exact ⟨rfl, rfl, rfl⟩

/-- An event records what it measures with the meter of the handler. -/
theorem meters_deliver (handler : Handler) (handle : Handle) (event : Event) :
    (world.deliver handler handle event).meters =
      Meter.recordAt world.meters handler.meter
        ((handler.call handle).deliver event (world.progressOf handle)).2.measurements := by
  rw [deliver_eq_commit, DeliveryLemmas.commit_eq]

end World

namespace Setup

/-- One move. A call or an event of a handler that was not built is ignored. -/
def step (setup : Setup) : Move → Setup
  | .build side options =>
    let (world, handler) := setup.world.buildHandler side options
    ⟨world, setup.handlers ++ [handler]⟩
  | .tag index parent rpc info =>
    match setup.handlers[index]? with
    | none => setup
    | some handler => { setup with world := (setup.world.tag handler parent rpc info).1 }
  | .deliver index handle event =>
    match setup.handlers[index]? with
    | none => setup
    | some handler => { setup with world := setup.world.deliver handler handle event }
  | replacement =>
    { setup with world := { setup.world with globals := setup.world.globals.after replacement } }

/-- Moves one after another. -/
def run (setup : Setup) (moves : List Move) : Setup := moves.foldl step setup

variable (setup : Setup)

/-- A move changes the globals if it replaces some, and makes instruments only if it builds a
handler. -/
theorem step_eq (move : Move) :
    (setup.step move).world.globals = setup.world.globals.after move ∧
      (setup.step move).handlers = setup.handlers ++ move.builds setup.world.globals ∧
      (setup.step move).world.instruments = setup.world.instruments ++
        (move.builds setup.world.globals).flatMap Handler.instruments := by
  cases move with
  | build side options => exact ⟨rfl, rfl, congrArg _ (List.append_nil _).symm⟩
  | tag index parent rpc info =>
    simp only [step, Globals.after, Move.builds, List.flatMap_nil, List.append_nil]
    split
    · exact ⟨rfl, rfl, rfl⟩
    · next handler _ =>
      obtain ⟨globals, instruments⟩ := setup.world.settings_tag handler parent rpc info
      exact ⟨globals, rfl, instruments⟩
  | deliver index handle event =>
    simp only [step, Globals.after, Move.builds, List.flatMap_nil, List.append_nil]
    split
    · exact ⟨rfl, rfl, rfl⟩
    · next handler _ =>
      obtain ⟨globals, instruments⟩ := setup.world.settings_deliver handler handle event
      exact ⟨globals, rfl, instruments⟩
  | _ => exact ⟨rfl, (List.append_nil _).symm, (List.append_nil _).symm⟩

theorem run_eq (moves : List Move) :
    (setup.run moves).world.globals = moves.foldl Globals.after setup.world.globals ∧
      (setup.run moves).handlers =
        setup.handlers ++ Move.handlersOf setup.world.globals moves ∧
      (setup.run moves).world.instruments = setup.world.instruments ++
        (Move.handlersOf setup.world.globals moves).flatMap Handler.instruments := by
  induction moves generalizing setup with
  | nil => exact ⟨rfl, (List.append_nil _).symm, (List.append_nil _).symm⟩
  | cons move rest ih =>
    obtain ⟨globals, handlers, instruments⟩ := setup.step_eq move
    obtain ⟨lastGlobals, allHandlers, allInstruments⟩ := ih (setup.step move)
    rw [globals] at lastGlobals allHandlers allInstruments
    rw [handlers, List.append_assoc] at allHandlers
    rw [instruments, List.append_assoc, ← List.flatMap_append] at allInstruments
    exact ⟨lastGlobals, allHandlers, allInstruments⟩

/-- A handler keeps what it was built as. It starts spans with its own tracer or, without one, that
of the provider that was the global one when it was built, and all that its events measure goes to
its own meter or the one of that time; what is global now makes no difference to either. It reads
and writes contexts with its own propagator or the one that is global now. An own choice is never
replaced. The five instruments of every handler are made when it is built, with its meter, and none
at any other time. -/
theorem binding_times (before middle : List Move) (side : Side) (options : HandlerOptions) :
    let moves := before ++ .build side options :: middle
    let atBuilding := before.foldl Globals.after setup.world.globals
    let atCall := moves.foldl Globals.after setup.world.globals
    let now := setup.run moves
    let tracer := options.tracer.or atBuilding.tracer
    let meter := options.meter.or atBuilding.meter
    let propagator := options.propagator.getD atCall.propagator
    let handler : Handler :=
      ⟨side.role options.policy, tracer, meter, options.propagator, options.filter⟩
    now.handlers[(setup.run before).handlers.length]? = some handler ∧
      (∀ parent rpc info,
        let tagged := now.world.tag handler parent rpc info
        let above := match side with
          | .server => propagator.extract now.world.current .empty rpc.incoming
          | .client => parent
        let started := now.world.startSpan tracer callScope above
          (Method.parse info.fullMethod).1 handler.role.spanKind (Method.identity info.fullMethod)
        (tagged.1.providers = started.1.providers ∧ tagged.1.spans = started.1.spans ∧
            tagged.2.context = started.2) ∧
          (∀ index, tracer ≠ some index →
            tagged.1.providers[index]? = now.world.providers[index]?) ∧
          (tagged.2.context.record? = none ∧ tagged.1.spans = now.world.spans ∨
            ∃ index span, tracer = some index ∧
              tagged.2.context.record? = some now.world.spans.length ∧
              tagged.1.spans = now.world.spans ++ [⟨index, span⟩]) ∧
          tagged.2.rpc.outgoing = match side with
            | .server => rpc.outgoing
            | .client => (rpc.outgoing.inject (propagator.fields tagged.2.context)).1) ∧
      (∀ handle event,
        (now.world.deliver handler handle event).meters =
          Meter.recordAt now.world.meters meter
            ((handler.call handle).deliver event (now.world.progressOf handle)).2.measurements) ∧
      (∀ provider, options.tracer = some provider → tracer = some provider) ∧
      (∀ own, options.meter = some own → meter = some own) ∧
      (∀ own, options.propagator = some own → propagator = own) ∧
      (now.handlers = setup.handlers ++ Move.handlersOf setup.world.globals moves ∧
        (Move.handlersOf setup.world.globals moves).length = moves.countP Move.isBuild ∧
        now.world.instruments = setup.world.instruments ++
          (Move.handlersOf setup.world.globals moves).flatMap Handler.instruments) ∧
      ∀ built : Handler, built.instruments.map (·.1) = List.replicate 5 built.meter := by
  intro moves atBuilding atCall now tracer meter propagator handler
  obtain ⟨globals, handlers, instruments⟩ := setup.run_eq moves
  have current : handler.propagatorIn now.world.globals = propagator := by
    rw [Handler.propagatorIn, globals]
  refine ⟨?_, fun parent rpc info => ?_, fun handle event => ?_, ?_, ?_, ?_,
    ⟨handlers, Move.length_handlersOf _ _, instruments⟩, fun _ => rfl⟩
  · obtain ⟨-, earlier, -⟩ := setup.run_eq before
    rw [handlers, earlier, Move.handlersOf_append, ← List.append_assoc,
      List.getElem?_append_right (Nat.le_refl _), Nat.sub_self]
    rfl
  · intro tagged above started
    have parentOf : now.world.parentOf handler parent rpc = above := by
      unfold World.parentOf
      rw [current]
      cases side <;> rfl
    have startedSpan : now.world.startCallSpan handler parent rpc info = started := by
      rw [World.startCallSpan, parentOf]
    obtain ⟨providers, spans, context⟩ := now.world.started_tag handler parent rpc info
    rw [startedSpan] at providers spans context
    obtain ⟨others, record⟩ := now.world.startSpan_by tracer callScope above
      (Method.parse info.fullMethod).1 handler.role.spanKind (Method.identity info.fullMethod)
    refine ⟨⟨providers, spans, context⟩, ?_, ?_, ?_⟩
    · rw [providers]
      exact others
    · rw [context, spans]
      exact record
    · have outgoing := now.world.outgoing_tag handler parent rpc info
      rw [← World.context_tag] at outgoing
      refine outgoing.trans ?_
      unfold World.outgoingOf
      rw [current]
      cases side <;> rfl
  · exact now.world.meters_deliver handler handle event
  · intro provider own
    simp only [tracer, own, Option.some_or]
  · intro chosen own
    simp only [meter, own, Option.some_or]
  · intro chosen own
    simp only [propagator, own, Option.getD_some]

/-- Two handlers from the same options, with a provider of spans set only before the first one and a
meter only before the second one. -/
example :
    let moves : List Move := [.setTracer (some 0), .build .server .initial, .setTracer none,
      .setMeter (some 1), .build .client .initial]
    (Move.handlersOf .initial moves).map (fun handler => (handler.tracer, handler.meter)) =
      [(some 0, none), (none, some 1)] := by
  rfl

end Setup

end RpcTelemetry
