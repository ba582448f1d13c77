import RpcTelemetry.Proofs.World.Tagging

/-!
# Calls do not interfere

A process serves many calls at once, and they share its providers, its meters and its log. How a
call stands (`Standing`) is all that the delivery of an event reads: what the delivery gives out and
how the call stands afterwards follow from that alone (`Traffic.standing_deliver`,
`Traffic.produced_deliver`). Whatever else happens leaves a call as it stands
(`Traffic.standing_step`), so a call gives out the same in every interleaving.

Main statement: `Traffic.calls_do_not_interfere`.
-/

namespace RpcTelemetry

/-- A call with the handler that serves it. -/
structure ServedCall where
  handler : Handler
  handle : Handle

/-- What happens in a process: an event comes to one of its calls, or a further call is tagged. -/
inductive Action where
  | deliver (index : Nat) (event : Event)
  | tag (handler : Handler) (parent : Context) (rpc : CallContext) (info : CallInfo)

/-- A process with the calls that it serves, which are known by their positions. -/
structure Traffic where
  world : World
  calls : List ServedCall

/-- What is given out in some stretch of a process: the measurements of each meter, the exported
spans and the log lines. -/
structure Produced where
  measurements : Nat → List Measurement
  exported : List ExportedSpan
  logs : List Log.Record

/-- How a call stands: its handler and its handle with the metadata, its counters, its end flag and
its span, the provider of the span, and the meter that takes the measurements. -/
structure Standing where
  call : ServedCall
  progress : Progress
  provider : Option Nat
  meter : Option Nat

/-- What one world has given out beyond an earlier one. -/
def World.produced (before after : World) : Produced where
  measurements meter :=
    (after.meterAt meter).measurements.drop (before.meterAt meter).measurements.length
  exported := after.exported.drop before.exported.length
  logs := after.logs.drop before.logs.length

/-- A later world has given out all that an earlier one has, and maybe more. -/
structure World.Extends (before after : World) : Prop where
  measurements : ∀ meter,
    (before.meterAt meter).measurements <+: (after.meterAt meter).measurements
  exported : before.exported <+: after.exported
  logs : before.logs <+: after.logs

namespace Standing

/-- How a call stands after an event. -/
def deliver (standing : Standing) (event : Event) : Standing :=
  let call := standing.call.handler.call standing.call.handle
  { standing with progress := (call.deliver event standing.progress).1 }

/-- What an event of a call gives out. -/
def produced (standing : Standing) (event : Event) : Produced :=
  let output := ((standing.call.handler.call standing.call.handle).deliver event
    standing.progress).2
  { measurements := fun meter => if standing.meter = some meter then output.measurements else []
    exported := ExportedSpan.ofProvider standing.provider output.spans
    logs := output.logs.map (⟨·, false⟩) }

end Standing

namespace Traffic

/-- One thing happens. An event for a call that does not exist comes to nothing. -/
def step (traffic : Traffic) : Action → Traffic
  | .deliver index event =>
    match traffic.calls[index]? with
    | none => traffic
    | some call =>
      { traffic with world := traffic.world.deliver call.handler call.handle event }
  | .tag handler parent rpc info =>
    let (world, handle) := traffic.world.tag handler parent rpc info
    ⟨world, traffic.calls ++ [⟨handler, handle⟩]⟩

/-- Things happen one after another. -/
def run (traffic : Traffic) (actions : List Action) : Traffic := actions.foldl step traffic

/-- The call that an action is about. -/
def subject (traffic : Traffic) : Action → Nat
  | .deliver index _ => index
  | .tag .. => traffic.calls.length

/-- What each of several actions gives out, with the call that it is about. -/
def produced (traffic : Traffic) : List Action → List (Nat × Produced)
  | [] => []
  | action :: rest =>
    (traffic.subject action, traffic.world.produced (traffic.step action).world) ::
      (traffic.step action).produced rest

/-- How the call at a position stands. -/
def standing? (traffic : Traffic) (index : Nat) : Option Standing :=
  traffic.calls[index]?.map fun call =>
    ⟨call, traffic.world.progressOf call.handle, traffic.world.starterOf call.handle.context,
      call.handler.meter.filter (· < traffic.world.meters.length)⟩

/-- A call of which nothing is known but a context joins those of a process. -/
def addDetached (traffic : Traffic) (handler : Handler) (rpc : CallContext) (context : Context) :
    Traffic :=
  let (world, handle) := traffic.world.detach rpc context
  ⟨world, traffic.calls ++ [⟨handler, handle⟩]⟩

/-- Calls of a process that are distinct, and have distinct spans. -/
structure Apart (traffic : Traffic) : Prop where
  known : ∀ call ∈ traffic.calls, traffic.world.Knows call.handle
  recorded : ∀ call ∈ traffic.calls, ∀ index, call.handle.context.record? = some index →
    index < traffic.world.spans.length
  cells : traffic.calls.Pairwise fun one other => one.handle.cell ≠ other.handle.cell
  spans : traffic.calls.Pairwise fun one other => ∀ index,
    one.handle.context.record? = some index → other.handle.context.record? ≠ some index

end Traffic

/-- Whether an action brings an event to the call at a position. -/
def Action.isFor (index : Nat) : Action → Bool
  | .deliver target _ => target = index
  | .tag .. => false

/-- Whether an action tags a call or brings an event to the one at a position. -/
def Action.concerns (index : Nat) : Action → Bool
  | .deliver target _ => target = index
  | .tag .. => true

open DeliveryLemmas

/-- What two worlds have in common if tagging a call comes to the same in both: all but what calls
have gone through. -/
structure World.SameGround (one other : World) : Prop where
  providers : other.providers = one.providers
  meters : other.meters.length = one.meters.length
  spans : other.spans.length = one.spans.length
  cells : other.cells.length = one.cells.length
  attached : other.attached = one.attached
  globals : other.globals = one.globals

namespace World

variable (world : World) (handler : Handler) (parent : Context)

theorem SameGround.refl : world.SameGround world := ⟨rfl, rfl, rfl, rfl, rfl, rfl⟩

theorem SameGround.symm {one other : World} (same : one.SameGround other) :
    other.SameGround one :=
  ⟨same.providers.symm, same.meters.symm, same.spans.symm, same.cells.symm, same.attached.symm,
    same.globals.symm⟩

theorem SameGround.trans {one other last : World} (first : one.SameGround other)
    (second : other.SameGround last) : one.SameGround last :=
  ⟨second.providers.trans first.providers, second.meters.trans first.meters,
    second.spans.trans first.spans, second.cells.trans first.cells,
    second.attached.trans first.attached, second.globals.trans first.globals⟩

theorem exists_startSpan_eq (tracer : Option Nat) (scope : Scope) (name : String) (kind : SpanKind)
    (attributes : List Attribute) :
    ∃ providers added context, ∀ other, world.SameGround other →
      other.startSpan tracer scope parent name kind attributes =
        ({ other with providers, spans := other.spans ++ added }, context) := by
  cases found : tracer.bind fun index => (world.providers[index]?).map (index, ·) with
  | none =>
    refine ⟨world.providers, [], ⟨some ⟨parent.identity, none⟩⟩, fun other same => ?_⟩
    simp only [startSpan, same.providers, found, List.append_nil]
    rw [← same.providers]
  | some numbered =>
    let started := numbered.2.start scope parent name kind attributes
    cases recorded : started.span with
    | none =>
      refine ⟨world.providers.set numbered.1 started.provider, [],
        ⟨some ⟨started.identity, none⟩⟩, fun other same => ?_⟩
      simp only [startSpan, same.providers, found, List.append_nil]
      rw [show (numbered.2.start scope parent name kind attributes).span = _ from recorded]
    | some span =>
      refine ⟨world.providers.set numbered.1 started.provider, [⟨numbered.1, span⟩],
        ⟨some ⟨started.identity, some world.spans.length⟩⟩, fun other same => ?_⟩
      simp only [startSpan, same.providers, found]
      rw [show (numbered.2.start scope parent name kind attributes).span = _ from recorded,
        same.spans]

theorem exists_startCall_eq (info : CallInfo) :
    ∃ providers added context logs, ∀ other, world.SameGround other →
      other.startCall handler parent info =
        ({ other with providers, spans := other.spans ++ added, logs := other.logs ++ logs },
          context, handler.trackingOf info) := by
  obtain ⟨providers, added, context, started⟩ :=
    world.exists_startSpan_eq parent handler.tracer callScope (Method.parse info.fullMethod).1
      handler.role.spanKind (Method.identity info.fullMethod)
  cases accepted : handler.records info with
  | true =>
    refine ⟨providers, added, context, [], fun other same => ?_⟩
    simp only [startCall, started other same, accepted, if_true, Handler.trackingOf,
      List.append_nil]
  | false =>
    refine ⟨providers, added, context, [⟨handler.filteredEntry info, false⟩],
      fun other same => ?_⟩
    simp only [startCall, started other same, accepted, Bool.false_eq_true, if_false,
      Handler.trackingOf, log, List.map_singleton]

/-- What tagging a call adds is the same in all worlds with a common ground. -/
theorem exists_tag_eq (rpc : CallContext) (info : CallInfo) :
    ∃ providers added logs handle, ∀ other, world.SameGround other →
      other.tag handler parent rpc info =
        ({ other with
            providers
            spans := other.spans ++ added
            cells := other.cells ++ [.fresh]
            logs := other.logs ++ logs }, handle) := by
  cases role : handler.role with
  | server policy =>
    obtain ⟨providers, added, context, logs, started⟩ := world.exists_startCall_eq handler
      ((handler.propagatorIn world.globals).extract world.current .empty rpc.incoming) info
    refine ⟨providers, added, logs, ⟨world.cells.length, handler.trackingOf info, rpc, context⟩,
      fun other same => ?_⟩
    have current : other.current = world.current := by
      unfold World.current
      rw [same.attached]
    simp only [tag, role, tagServer, same.globals, current, started other same, addHandle, addCell,
      same.cells]
  | client =>
    obtain ⟨providers, added, context, logs, started⟩ :=
      world.exists_startCall_eq handler parent info
    let injected := rpc.outgoing.inject ((handler.propagatorIn world.globals).fields context)
    refine ⟨providers, added, logs ++ (injected.2.map Metadata.WriteError.entry).map (⟨·, false⟩),
      ⟨world.cells.length, handler.trackingOf info, { rpc with outgoing := injected.1 }, context⟩,
      fun other same => ?_⟩
    simp only [tag, role, tagClient, same.globals, started other same, addHandle, addCell, log,
      same.cells, List.append_assoc, injected]

end World

namespace InterferenceLemmas

theorem length_recordAt (meters : List Meter) (position : Option Nat)
    (measurements : List Measurement) :
    (Meter.recordAt meters position measurements).length = meters.length := by
  cases position with
  | none => rfl
  | some index => exact List.length_modify _ _ _

/-- Measurements go to the meter at a position, if there is one. -/
theorem meterAt_recordAt (world : World) (position : Option Nat) (added : List Measurement)
    (meter : Nat) :
    (World.meterAt { world with meters := Meter.recordAt world.meters position added }
      meter).measurements = (world.meterAt meter).measurements ++
        if position.filter (· < world.meters.length) = some meter then added else [] := by
  unfold World.meterAt
  cases position with
  | none => exact (List.append_nil _).symm
  | some place =>
    show (((world.meters.modify place (·.record added))[meter]?).getD .fresh).measurements = _
    rw [List.getElem?_modify, Option.filter_some]
    by_cases here : place = meter
    · subst here
      rcases Nat.lt_or_ge place world.meters.length with inside | outside
      · rw [List.getElem?_eq_getElem inside]
        simp [inside, Meter.record]
      · rw [List.getElem?_eq_none outside]
        simp [Nat.not_lt.2 outside]
    · have other : ¬(if decide (place < world.meters.length) = true then some place else none) =
          some meter := by
        split <;> simp [here]
      rw [if_neg other]
      cases world.meters[meter]? <;> simp [here]

variable (world : World) (handler : Handler) {handle other : Handle}

/-- What is written back for one call is not found by a call with another cell and another span. -/
theorem progressOf_commit_of_apart (outcome : Progress × Output)
    (cells : handle.cell ≠ other.cell)
    (spans : ∀ index, handle.context.record? = some index → other.context.record? ≠ some index) :
    (world.commit handler handle outcome).progressOf other = world.progressOf other ∧
      (world.commit handler handle outcome).starterOf other.context =
        world.starterOf other.context := by
  have span (index : Nat) (record : other.context.record? = some index) :
      (world.commit handler handle outcome).spans[index]? = world.spans[index]? := by
    rw [commit_eq]
    show (KeptSpan.replaceAt _ _ _)[index]? = _
    rw [getElem?_replaceAt, if_neg fun same => spans index same record]
  constructor
  · unfold World.progressOf World.cellOf World.spanOf
    congr 1
    · rw [commit_eq, List.getElem?_set_ne cells]
    · cases record : other.context.record? with
      | none => rfl
      | some index => rw [Option.bind_some, Option.bind_some, span index record]
  · unfold World.starterOf
    cases record : other.context.record? with
    | none => rfl
    | some index => rw [Option.bind_some, Option.bind_some, span index record]

end InterferenceLemmas

open InterferenceLemmas

namespace Traffic

variable {traffic : Traffic} {index : Nat}

theorem Apart.distinct (apart : traffic.Apart) {other : Nat} {one two : ServedCall}
    (first : traffic.calls[index]? = some one) (second : traffic.calls[other]? = some two)
    (different : index ≠ other) :
    one.handle.cell ≠ two.handle.cell ∧ ∀ record, one.handle.context.record? = some record →
      two.handle.context.record? ≠ some record := by
  obtain ⟨inside, rfl⟩ := List.getElem?_eq_some_iff.1 first
  obtain ⟨within, rfl⟩ := List.getElem?_eq_some_iff.1 second
  rcases Nat.lt_or_gt_of_ne different with before | after
  · exact ⟨List.pairwise_iff_getElem.1 apart.cells _ _ inside within before,
      List.pairwise_iff_getElem.1 apart.spans _ _ inside within before⟩
  · refine ⟨(List.pairwise_iff_getElem.1 apart.cells _ _ within inside after).symm,
      fun record here there => ?_⟩
    exact List.pairwise_iff_getElem.1 apart.spans _ _ within inside after record there here

/-! ## An event of a call -/

theorem produced_self (world : World) : world.produced world = ⟨fun _ => [], [], []⟩ := by
  unfold World.produced
  simp only [List.drop_length]

theorem produced_of_tag (world : World) (providers : List Provider) (spans : List KeptSpan)
    (cells : List Cell) (logs : List Log.Record) :
    world.produced { world with providers, spans, cells, logs := world.logs ++ logs } =
      ⟨fun _ => [], [], logs⟩ := by
  unfold World.produced
  congr 1
  · funext meter
    exact List.drop_length
  · exact List.drop_length
  · exact List.drop_left

theorem exists_of_standing? {standing : Standing}
    (stands : traffic.standing? index = some standing) :
    ∃ call, traffic.calls[index]? = some call ∧ standing =
      ⟨call, traffic.world.progressOf call.handle, traffic.world.starterOf call.handle.context,
        call.handler.meter.filter (· < traffic.world.meters.length)⟩ := by
  obtain ⟨call, found, rfl⟩ := Option.map_eq_some_iff.1 stands
  exact ⟨call, found, rfl⟩

theorem step_deliver {call : ServedCall} (found : traffic.calls[index]? = some call)
    (event : Event) :
    traffic.step (.deliver index event) = { traffic with
      world := traffic.world.commit call.handler call.handle
        ((call.handler.call call.handle).deliver event
          (traffic.world.progressOf call.handle)) } := by
  simp only [step, found]
  rfl

theorem step_missing (missing : traffic.calls[index]? = none) (event : Event) :
    traffic.step (.deliver index event) = traffic := by
  simp only [step, missing]

/-- What an event gives out follows from how its call stands. -/
theorem produced_deliver {standing : Standing} (stands : traffic.standing? index = some standing)
    (event : Event) :
    traffic.world.produced (traffic.step (.deliver index event)).world =
      standing.produced event := by
  obtain ⟨call, found, rfl⟩ := exists_of_standing? stands
  rw [step_deliver found, commit_eq]
  unfold World.produced Standing.produced
  congr 1
  · funext meter
    exact (congrArg (List.drop _) (meterAt_recordAt traffic.world _ _ meter)).trans
      List.drop_left
  · exact List.drop_left
  · exact List.drop_left

/-- How a call stands after an event follows from how it stood. -/
theorem standing_deliver (apart : traffic.Apart) {standing : Standing}
    (stands : traffic.standing? index = some standing) (event : Event) :
    (traffic.step (.deliver index event)).standing? index = some (standing.deliver event) := by
  obtain ⟨call, found, rfl⟩ := exists_of_standing? stands
  have known := apart.known call (List.mem_of_getElem? found)
  rw [step_deliver found]
  unfold standing?
  -- What was written is found again, as no event changes a span that is over.
  rw [found, Option.map_some, starterOf_commit,
    traffic.world.progressOf_commit call.handler known _ fun past =>
      Call.span_deliver_of_over past event, commit_eq, length_recordAt]
  rfl

/-! ## Tagging a further call -/

theorem step_tag (handler : Handler) (parent : Context) (rpc : CallContext) (info : CallInfo) :
    traffic.step (.tag handler parent rpc info) =
      ⟨(traffic.world.tag handler parent rpc info).1,
        traffic.calls ++ [⟨handler, (traffic.world.tag handler parent rpc info).2⟩]⟩ := rfl

/-- A call joins others that are apart, with a cell of its own and a span that no other one has. -/
theorem Apart.join (apart : traffic.Apart) {world : World} {call : ServedCall}
    (cells : traffic.world.cells.length ≤ world.cells.length)
    (spans : traffic.world.spans.length ≤ world.spans.length)
    (fresh : traffic.world.cells.length ≤ call.handle.cell) (known : world.Knows call.handle)
    (free : ∀ index, call.handle.context.record? = some index → index < world.spans.length ∧
      ∀ other ∈ traffic.calls, other.handle.context.record? ≠ some index) :
    Apart ⟨world, traffic.calls ++ [call]⟩ := by
  constructor
  case known =>
    intro other present
    rcases List.mem_append.1 present with old | added
    · exact Nat.lt_of_lt_of_le (apart.known other old) cells
    · rw [List.mem_singleton.1 added]
      exact known
  case recorded =>
    intro other present record here
    rcases List.mem_append.1 present with old | added
    · exact Nat.lt_of_lt_of_le (apart.recorded other old record here) spans
    · rw [List.mem_singleton.1 added] at here
      exact (free record here).1
  case cells =>
    refine List.pairwise_append.2 ⟨apart.cells, List.pairwise_singleton _ _, ?_⟩
    intro one present other added same
    rw [List.mem_singleton.1 added] at same
    exact absurd (apart.known one present) (Nat.not_lt.2 (same ▸ fresh))
  case spans =>
    refine List.pairwise_append.2 ⟨apart.spans, List.pairwise_singleton _ _, ?_⟩
    intro one present other added record here there
    rw [List.mem_singleton.1 added] at there
    exact (free record there).2 one present here

theorem Apart.tag (apart : traffic.Apart) (handler : Handler) (parent : Context)
    (rpc : CallContext) (info : CallInfo) :
    (traffic.step (.tag handler parent rpc info)).Apart := by
  rw [step_tag]
  obtain ⟨providers, spans, logs, frame⟩ := traffic.world.tag_frame handler parent rpc info
  obtain ⟨new, grown, records⟩ := traffic.world.spans_tag_append handler parent rpc info
  refine apart.join ?cells ?spans ?fresh (traffic.world.knows_tag handler parent rpc info) ?free
  case cells =>
    rw [frame, List.length_append]
    exact Nat.le_add_right _ _
  case spans =>
    rw [grown, List.length_append]
    exact Nat.le_add_right _ _
  case fresh => exact Nat.le_of_eq (traffic.world.cell_tag handler parent rpc info).symm
  case free =>
    intro index here
    obtain ⟨after, inside⟩ := records index here
    rw [grown, List.length_append]
    refine ⟨inside, fun other present there => ?_⟩
    exact absurd (apart.recorded other present index there) (Nat.not_lt.2 after)

theorem standing_tag (apart : traffic.Apart) (handler : Handler) (parent : Context)
    (rpc : CallContext) (info : CallInfo) (other : index ≠ traffic.calls.length) :
    (traffic.step (.tag handler parent rpc info)).standing? index = traffic.standing? index := by
  rw [step_tag]
  obtain ⟨providers, spans, logs, frame⟩ := traffic.world.tag_frame handler parent rpc info
  obtain ⟨new, grown, -⟩ := traffic.world.spans_tag_append handler parent rpc info
  rw [frame] at grown ⊢
  obtain rfl : spans = traffic.world.spans ++ new := grown
  unfold standing?
  cases found : traffic.calls[index]? with
  | none =>
    have outside := List.getElem?_eq_none_iff.1 found
    rw [List.getElem?_eq_none (by rw [List.length_append, List.length_singleton]; omega)]
    rfl
  | some call =>
    have present := List.mem_of_getElem? found
    have inside := (List.getElem?_eq_some_iff.1 found).1
    have record (index : Nat) (here : call.handle.context.record? = some index) :
        (traffic.world.spans ++ new)[index]? = traffic.world.spans[index]? :=
      List.getElem?_append_left (apart.recorded call present index here)
    have cell : (traffic.world.cells ++ [.fresh])[call.handle.cell]? =
        traffic.world.cells[call.handle.cell]? :=
      List.getElem?_append_left (apart.known call present)
    rw [List.getElem?_append_left inside, found, Option.map_some, Option.map_some]
    unfold World.progressOf World.cellOf World.spanOf World.starterOf
    dsimp only
    rw [cell]
    cases here : call.handle.context.record? with
    | none => rfl
    | some index => rw [Option.bind_some, Option.bind_some, record index here]

/-! ## Steps -/

theorem Apart.step (apart : traffic.Apart) (action : Action) : (traffic.step action).Apart := by
  cases action with
  | tag handler parent rpc info => exact apart.tag handler parent rpc info
  | deliver index event =>
    cases found : traffic.calls[index]? with
    | none =>
      rw [step_missing found]
      exact apart
    | some call =>
      rw [step_deliver found, commit_eq]
      refine ⟨fun other present => ?_, fun other present record here => ?_, apart.cells,
        apart.spans⟩
      · exact Nat.lt_of_lt_of_eq (apart.known other present) List.length_set.symm
      · exact Nat.lt_of_lt_of_eq (apart.recorded other present record here)
          (length_replaceAt _ _ _).symm

/-- A step leaves every other call as it stands. -/
theorem standing_step (apart : traffic.Apart) (action : Action)
    (other : index ≠ traffic.subject action) :
    (traffic.step action).standing? index = traffic.standing? index := by
  cases action with
  | tag handler parent rpc info => exact standing_tag apart handler parent rpc info other
  | deliver target event =>
    cases found : traffic.calls[target]? with
    | none => rw [step_missing found]
    | some call =>
      rw [step_deliver found]
      unfold standing?
      cases there : traffic.calls[index]? with
      | none => rfl
      | some served =>
        obtain ⟨cells, spans⟩ := apart.distinct found there other.symm
        obtain ⟨progress, starter⟩ := progressOf_commit_of_apart traffic.world call.handler
          ((call.handler.call call.handle).deliver event (traffic.world.progressOf call.handle))
          cells spans
        rw [Option.map_some, Option.map_some, progress, starter, commit_eq, length_recordAt]

/-- What was given out once stays given out. -/
theorem extends_step (traffic : Traffic) (action : Action) :
    traffic.world.Extends (traffic.step action).world := by
  cases action with
  | tag handler parent rpc info =>
    obtain ⟨providers, added, logs, handle, tagged⟩ :=
      traffic.world.exists_tag_eq handler parent rpc info
    rw [step_tag, tagged traffic.world (.refl _)]
    exact ⟨fun meter => List.prefix_rfl, List.prefix_rfl, List.prefix_append _ _⟩
  | deliver target event =>
    cases found : traffic.calls[target]? with
    | none =>
      rw [step_missing found]
      exact ⟨fun meter => List.prefix_rfl, List.prefix_rfl, List.prefix_rfl⟩
    | some call =>
      rw [step_deliver found, commit_eq]
      refine ⟨fun meter => ?_, List.prefix_append _ _, List.prefix_append _ _⟩
      exact ⟨_, (meterAt_recordAt traffic.world _ _ meter).symm⟩

theorem Apart.run (apart : traffic.Apart) (actions : List Action) :
    (traffic.run actions).Apart := by
  induction actions generalizing traffic with
  | nil => exact apart
  | cons action rest ih => exact ih (apart.step action)

/-! ## Two processes in which one call stands alike -/

/-- Two processes with the same calls, in which nothing but the other calls may stand otherwise. -/
structure Alike (index : Nat) (one other : Traffic) : Prop where
  ground : one.world.SameGround other.world
  calls : other.calls = one.calls
  standing : other.standing? index = one.standing? index

theorem sameGround_deliver (traffic : Traffic) (target : Nat) (event : Event) :
    traffic.world.SameGround (traffic.step (.deliver target event)).world ∧
      (traffic.step (.deliver target event)).calls = traffic.calls := by
  cases found : traffic.calls[target]? with
  | none =>
    rw [step_missing found]
    exact ⟨.refl _, rfl⟩
  | some call =>
    rw [step_deliver found, commit_eq]
    exact ⟨⟨rfl, length_recordAt _ _ _, length_replaceAt _ _ _, List.length_set, rfl, rfl⟩, rfl⟩

namespace Alike

variable {one other : Traffic}

theorem refl (traffic : Traffic) : Alike index traffic traffic := ⟨.refl _, rfl, rfl⟩

theorem apart (alike : Alike index one other) (apart : one.Apart) : other.Apart := by
  obtain ⟨ground, calls, -⟩ := alike
  refine ⟨?known, ?recorded, ?cells, ?spans⟩ <;> rw [calls]
  case known =>
    intro call present
    exact Nat.lt_of_lt_of_eq (apart.known call present) ground.cells.symm
  case recorded =>
    intro call present record here
    exact Nat.lt_of_lt_of_eq (apart.recorded call present record here) ground.spans.symm
  case cells => exact apart.cells
  case spans => exact apart.spans

/-- An event of another call makes no difference. -/
theorem foreign (alike : Alike index one other) (apart : one.Apart) {target : Nat}
    (different : index ≠ target) (event : Event) :
    Alike index (one.step (.deliver target event)) other := by
  obtain ⟨ground, calls⟩ := one.sameGround_deliver target event
  exact ⟨ground.symm.trans alike.ground, alike.calls.trans calls.symm,
    alike.standing.trans (standing_step apart (.deliver target event) different).symm⟩

/-- An event of the call itself gives out the same in both processes. -/
theorem own (alike : Alike index one other) (apart : one.Apart) (event : Event) :
    Alike index (one.step (.deliver index event)) (other.step (.deliver index event)) ∧
      one.world.produced (one.step (.deliver index event)).world =
        other.world.produced (other.step (.deliver index event)).world := by
  obtain ⟨ground, calls⟩ := one.sameGround_deliver index event
  obtain ⟨otherGround, otherCalls⟩ := other.sameGround_deliver index event
  have standing := alike.standing
  cases stands : one.standing? index with
  | none =>
    rw [stands] at standing
    have missing : one.calls[index]? = none := Option.map_eq_none_iff.1 stands
    have otherMissing : other.calls[index]? = none := Option.map_eq_none_iff.1 standing
    rw [step_missing missing, step_missing otherMissing, produced_self, produced_self]
    exact ⟨alike, rfl⟩
  | some now =>
    rw [stands] at standing
    refine ⟨⟨(ground.symm.trans alike.ground).trans otherGround, ?_, ?_⟩, ?_⟩
    · rw [otherCalls, alike.calls, calls]
    · rw [standing_deliver (alike.apart apart) standing, standing_deliver apart stands]
    · rw [produced_deliver stands, produced_deliver standing]

/-- A call that is tagged in both processes stands alike, and tagging it gives out the same. -/
theorem tag (alike : Alike index one other) (apart : one.Apart) (handler : Handler)
    (parent : Context) (rpc : CallContext) (info : CallInfo) :
    Alike index (one.step (.tag handler parent rpc info))
        (other.step (.tag handler parent rpc info)) ∧
      one.world.produced (one.step (.tag handler parent rpc info)).world =
        other.world.produced (other.step (.tag handler parent rpc info)).world := by
  obtain ⟨providers, added, logs, handle, tagged⟩ :=
    one.world.exists_tag_eq handler parent rpc info
  have ours := tagged one.world (.refl _)
  have theirs := tagged other.world alike.ground
  constructor
  · constructor
    case ground =>
      rw [step_tag, step_tag, ours, theirs]
      have ground := alike.ground
      refine ⟨rfl, ground.meters, ?_, ?_, ground.attached, ground.globals⟩
      · show (other.world.spans ++ added).length = (one.world.spans ++ added).length
        rw [List.length_append, List.length_append, ground.spans]
      · show (other.world.cells ++ [Cell.fresh]).length = (one.world.cells ++ [Cell.fresh]).length
        rw [List.length_append, List.length_append, ground.cells]
    case calls => rw [step_tag, step_tag, ours, theirs, alike.calls]
    case standing =>
      by_cases new : index = one.calls.length
      · -- The new call has a fresh cell, and its record is among those added in both processes.
        have cell := one.world.cellOf_tag handler parent rpc info
        have otherCell := other.world.cellOf_tag handler parent rpc info
        obtain ⟨newSpans, -, later⟩ := one.world.spans_tag_append handler parent rpc info
        rw [ours] at cell later
        rw [theirs] at otherCell
        have record (place : Nat) (here : handle.context.record? = some place) :
            (other.world.spans ++ added)[place]? = (one.world.spans ++ added)[place]? := by
          have after : one.world.spans.length ≤ place := (later place here).1
          have otherAfter : other.world.spans.length ≤ place :=
            Nat.le_trans (Nat.le_of_eq alike.ground.spans) after
          rw [List.getElem?_append_right after, List.getElem?_append_right otherAfter,
            alike.ground.spans]
        unfold standing?
        rw [step_tag, step_tag, ours, theirs, alike.calls, new]
        dsimp only
        rw [List.getElem?_concat_length, Option.map_some, Option.map_some]
        unfold World.progressOf World.spanOf World.starterOf
        dsimp only
        rw [cell, otherCell, alike.ground.meters]
        cases place : handle.context.record? with
        | none => rfl
        | some index => rw [Option.bind_some, Option.bind_some, record index place]
      · have position : index ≠ other.calls.length := by
          rw [alike.calls]
          exact new
        rw [standing_tag apart handler parent rpc info new,
          standing_tag (alike.apart apart) handler parent rpc info position, alike.standing]
  · rw [step_tag, step_tag, ours, theirs, produced_of_tag, produced_of_tag]

end Alike

/-- What one call gives out in a step and later. -/
theorem filter_produced_cons (traffic : Traffic) (action : Action) (rest : List Action) :
    (traffic.produced (action :: rest)).filter (·.1 = index) =
      (if traffic.subject action = index then
        [(index, traffic.world.produced (traffic.step action).world)] else []) ++
      ((traffic.step action).produced rest).filter (·.1 = index) := by
  rw [produced, List.filter_cons]
  by_cases own : traffic.subject action = index
  · rw [if_pos own, if_pos (by simpa using own), own]
    rfl
  · rw [if_neg own, if_neg (by simpa using own)]
    rfl

/-- In two processes where a call stands alike it gives out the same, though in the other one no
event comes to any other call. -/
theorem produced_of_alike {one other : Traffic} (apart : one.Apart)
    (alike : Alike index one other) (actions : List Action) :
    (one.produced actions).filter (·.1 = index) =
      (other.produced (actions.filter (·.concerns index))).filter (·.1 = index) := by
  induction actions generalizing one other with
  | nil => rfl
  | cons action rest ih =>
    cases action with
    | tag handler parent rpc info =>
      obtain ⟨next, same⟩ := alike.tag apart handler parent rpc info
      have position : other.calls.length = one.calls.length := congrArg List.length alike.calls
      rw [List.filter_cons_of_pos rfl, filter_produced_cons, filter_produced_cons,
        ih (apart.step _) next, same, subject, subject, position]
    | deliver target event =>
      by_cases own : target = index
      · subst own
        obtain ⟨next, same⟩ := alike.own apart event
        have kept : Action.concerns target (.deliver target event) = true := decide_eq_true rfl
        rw [List.filter_cons_of_pos kept, filter_produced_cons, filter_produced_cons,
          ih (apart.step _) next, same]
        rfl
      · have dropped : ¬Action.concerns index (.deliver target event) = true := fun kept =>
          own (of_decide_eq_true kept)
        rw [List.filter_cons_of_neg dropped, filter_produced_cons, subject, if_neg own,
          ih (apart.step _) (alike.foreign apart (Ne.symm own) event)]
        rfl

/-- A call that is there already gives out the same as if nothing but its events came. -/
theorem produced_of_stands {one other : Traffic} (apart : one.Apart) (otherApart : other.Apart)
    {standing : Standing} (stands : one.standing? index = some standing)
    (otherStands : other.standing? index = some standing) (actions : List Action) :
    (one.produced actions).filter (·.1 = index) =
      other.produced (actions.filter (·.isFor index)) := by
  induction actions generalizing one other standing with
  | nil => rfl
  | cons action rest ih =>
    by_cases own : action.isFor index = true
    · cases action with
      | tag => cases own
      | deliver target event =>
        obtain rfl : target = index := of_decide_eq_true own
        rw [List.filter_cons_of_pos own, filter_produced_cons, produced, produced_deliver stands,
          produced_deliver otherStands, subject, if_pos rfl,
          ih (apart.step _) (otherApart.step _) (standing_deliver apart stands event)
            (standing_deliver otherApart otherStands event)]
        rfl
    · have foreign : index ≠ one.subject action := by
        rintro rfl
        cases action with
        | deliver target event => exact own (decide_eq_true rfl)
        | tag handler parent rpc info =>
          obtain ⟨call, found, -⟩ := exists_of_standing? stands
          exact Nat.lt_irrefl _ (List.getElem?_eq_some_iff.1 found).1
      rw [List.filter_cons_of_neg own, filter_produced_cons, if_neg foreign.symm,
        ih (apart.step action) otherApart ((standing_step apart action foreign).trans stands)
          otherStands]
      rfl

/-- However the events of distinct calls interleave, and whatever further calls are tagged: each
step gives out what it gives out if events come to its own call only, and it leaves all other calls
as they stand. -/
theorem calls_do_not_interfere (apart : traffic.Apart) (actions : List Action) (index : Nat) :
    (traffic.produced actions).filter (·.1 = index) =
        (traffic.produced (actions.filter (·.concerns index))).filter (·.1 = index) ∧
      (index < traffic.calls.length →
        (traffic.produced actions).filter (·.1 = index) =
          traffic.produced (actions.filter (·.isFor index))) ∧
      ∀ before action after, actions = before ++ action :: after →
        let here := traffic.run before
        here.Apart ∧ here.world.Extends (here.step action).world ∧
          (index ≠ here.subject action →
            (here.step action).standing? index = here.standing? index) := by
  refine ⟨produced_of_alike apart (.refl traffic) actions, fun inside => ?_,
    fun before action after _ => ?_⟩
  · obtain ⟨standing, stands⟩ : ∃ standing, traffic.standing? index = some standing := by
      unfold standing?
      rw [List.getElem?_eq_getElem inside]
      exact ⟨_, rfl⟩
    exact produced_of_stands apart apart stands stands actions
  · have here := apart.run before
    exact ⟨here, extends_step _ action, standing_step here action⟩

/-! ## A sample process -/

/-- A detached call stands apart if no other call has its span. -/
theorem Apart.addDetached (apart : traffic.Apart) (handler : Handler) (rpc : CallContext)
    {context : Context} (free : ∀ index, context.record? = some index →
      index < traffic.world.spans.length ∧
        ∀ call ∈ traffic.calls, call.handle.context.record? ≠ some index) :
    (traffic.addDetached handler rpc context).Apart := by
  refine apart.join ?_ (Nat.le_refl _) (Nat.le_refl _) (traffic.world.knows_detach rpc context) free
  show _ ≤ (traffic.world.cells ++ [Cell.fresh]).length
  rw [List.length_append]
  exact Nat.le_add_right _ _

end Traffic

namespace Sample

/-- The handler of the sample process with a filter that refuses all calls. -/
def refusingServer : Handler := { server with filter := some fun _ => false }

/-- Three calls: one is recorded, one is filtered, and of one nothing is known but its context. -/
def traffic : Traffic :=
  let tagged := (⟨world, []⟩ : Traffic).run
    [.tag server .empty rpc info, .tag refusingServer .empty rpc info]
  tagged.addDetached server rpc (.remote .invalid)

/-- The calls take turns, and a fourth one is tagged in between. -/
def actions : List Action :=
  [.deliver 0 request, .deliver 2 request, .deliver 1 last.event, .tag server .empty rpc info,
    .deliver 3 request, .deliver 0 last.event, .deliver 2 last.event, .deliver 0 request]

theorem traffic_apart : traffic.Apart := by
  have alone : (⟨world, []⟩ : Traffic).Apart := by
    refine ⟨fun call present => ?_, fun call present => ?_, .nil, .nil⟩ <;>
      exact absurd present List.not_mem_nil
  exact (alone.run _).addDetached server rpc nofun

end Sample

theorem Traffic.sample_calls_do_not_interfere :
    Sample.traffic.Apart ∧ 0 < Sample.traffic.calls.length ∧
      (Sample.traffic.produced Sample.actions).filter (·.1 = 0) =
        Sample.traffic.produced (Sample.actions.filter (·.isFor 0)) ∧
      (Sample.traffic.produced (Sample.actions.filter (·.isFor 0))).map
        (fun item => (item.2.exported.length, (item.2.measurements 0).length)) =
        [(0, 1), (1, 3), (0, 0)] := by
  have inside : 0 < Sample.traffic.calls.length := by decide +kernel
  obtain ⟨-, alone, -⟩ :=
    Traffic.calls_do_not_interfere Sample.traffic_apart Sample.actions 0
  exact ⟨Sample.traffic_apart, inside, alone inside, by decide +kernel⟩

end RpcTelemetry
