import RpcTelemetry.Proofs.Call.Closing
import RpcTelemetry.Proofs.World.Tagging
import RpcTelemetry.Session.Report

/-!
# Who holds a span

A span of a session is held by handles and by attached contexts. It is closed by the first end that
comes through one of its handles, or else when nobody holds it any more. `State.closes` says so for
one step, and `State.Tidy` is the invariant behind it: an open span is held, and a handle that has
seen an end has no open span, whoever else holds it.

Here is what single changes do to a tidy session. Events through a handle are written back
(`State.Tidy.early`, `State.Tidy.closing`), and holders change hands, which closes the span that
loses its last one (`State.Rearranged.moves_letGo`).
-/

namespace RpcTelemetry

/-- The identity of the active span, if its record is kept. -/
def Context.recorded? (context : Context) : Option SpanContext :=
  context.record?.map fun _ => context.identity

namespace World

/-- Whether a handler has the tracer of a provider that is alive. -/
def traces (world : World) (handler : Handler) : Bool :=
  (handler.tracer.bind fun index => world.providers[index]?).any (·.live)

/-- The content of the span at a position, as long as it is open. -/
def contentAt? (world : World) (index : Nat) : Option SpanData :=
  world.spans[index]?.bind (·.span.data)

/-- What the span at a position would be exported as if it ended with an outcome. -/
def concludedAt? (world : World) (index : Nat) (outcome : Outcome) : Option SpanData :=
  world.spans[index]?.bind fun kept => (kept.span.conclude outcome).data

/-- The provider that started the span at a position. -/
def providerAt? (world : World) (index : Nat) : Option Nat := world.spans[index]?.map (·.provider)

end World

namespace Session

/-- Whether a step is one of a transport, or of those who hold handles and contexts. The others
reach into spans or providers from outside. -/
def Step.isPlain : Step → Bool
  | .spanAttribute _ _ | .spanStatus _ _ | .spanEnd _ | .childSpan _ _ => false
  | .resetExporter | .dropProvider => false
  | _ => true

/-- The handle that an answer brings for a call that was tagged. -/
def Answer.tagged? : Answer → Option Handle
  | .tagged view _ _ _ => some view.handle
  | _ => none

namespace State

/-- The handle of the call that a step tags. -/
def tagged? (state : State) : Step → Option Handle
  | .tag spec => (state.orFail (state.tag spec)).2.tagged?
  | _ => none

/-- Whether a step tags a call for a handler that has a tracer, be the span sampled or not. -/
def traces (state : State) : Step → Bool
  | .tag spec => ((state.handlers.get? spec.handler).map (·.handler)).any state.world.traces
  | _ => false

/-- The handles of a session. -/
def handles (state : State) : List Handle := state.calls.entries.map (·.2.handle)

/-- Whether a handle or an attached context holds the span at a position. -/
def holds (state : State) (index : Nat) : Bool := state.held.any (·.record? = some index)

/-- The span that a step delivers an end to, with the outcome that the end tells. -/
def endOf? (state : State) : Step → Option (Nat × Outcome)
  | .event name handler event times => do
    let completion ← event.completion?
    let call ← state.calls.get? name
    let named ← state.handlers.get? (handler.getD call.handler)
    let index ← call.handle.context.record?
    if times = 0 then none else some (index, named.handler.role.outcome completion.failure)
  | _ => none

/-- What the span at a position is closed with on the way to another state. An end concludes the
span that it comes to. Without an end the spans are closed that are not held any more. -/
def closing? (state : State) (ending : Option (Nat × Outcome)) (after : State) (index : Nat) :
    Option SpanData :=
  match ending with
  | some (target, outcome) =>
    if index = target then state.world.concludedAt? index outcome else none
  | none =>
    if state.holds index && !after.holds index then state.world.contentAt? index else none

/-- The spans that are closed on the way to another state. -/
def closings (state : State) (ending : Option (Nat × Outcome)) (after : State) :
    List (Nat × SpanData) :=
  (List.range state.world.spans.length).filterMap fun index =>
    (state.closing? ending after index).map (index, ·)

/-- The spans that a step closes. -/
def closes (state : State) (step : Step) : List (Nat × SpanData) :=
  state.closings (state.endOf? step) (state.step step).1

/-- Closed spans as they are exported. -/
def exports (state : State) (closed : List (Nat × SpanData)) : List ExportedSpan :=
  closed.flatMap fun (index, data) =>
    ExportedSpan.ofProvider (state.world.providerAt? index) [data]

end State

end Session

/-- What holds of the record of a span: it has no outcome, and if it is open it is sampled and will
be exported. -/
structure KeptSpan.Sound (kept : KeptSpan) : Prop where
  unconcluded : kept.span.Unconcluded
  exporting : ∀ data, kept.span.data = some data → kept.span.exporting = true
  sampled : ∀ data, kept.span.data = some data → data.context.isSampled = true

namespace KeptSpan.Sound

variable {kept : KeptSpan} {span : Span}

theorem of_kept (sound : kept.Sound) (same : kept.span.Kept span) :
    ({ kept with span } : KeptSpan).Sound := by
  have former {data : SpanData} (found : span.data = some data) :
      ∃ old, kept.span.data = some old ∧ old.context = data.context := by
    have identity := same.identity
    rw [found] at identity
    exact Option.map_eq_some_iff.1 identity.symm
  refine ⟨same.unconcluded sound.unconcluded, fun data found => ?_, fun data found => ?_⟩
  · obtain ⟨old, there, -⟩ := former found
    exact same.exporting.trans (sound.exporting old there)
  · obtain ⟨old, there, identity⟩ := former found
    rw [← identity]
    exact sound.sampled old there

theorem of_over (past : span.data = none) : ({ kept with span } : KeptSpan).Sound := by
  refine ⟨Span.unconcluded_of_over past, fun data found => ?_, fun data found => ?_⟩ <;>
    exact absurd (past.symm.trans found) nofun

end KeptSpan.Sound

namespace Session.State

/-- What holds of a session even in the middle of a step, when a span has lost its last holder. -/
structure Steady (state : State) : Prop where
  exporting : ∀ provider ∈ state.world.providers, provider.exporting = true
  sound : ∀ kept ∈ state.world.spans, kept.Sound
  known : ∀ handle ∈ state.handles, state.world.Knows handle
  /-- Handles with one cell have one span. -/
  tied : ∀ one ∈ state.handles, ∀ other ∈ state.handles, one.cell = other.cell →
    one.context.record? = other.context.record?
  ended : ∀ handle ∈ state.handles, state.world.isEnded handle = true →
    (state.world.spanOf handle.context).data = none
  inside : ∀ index, state.holds index = true → index < state.world.spans.length

/-- What holds of a session between any two steps: an open span is held. -/
structure Tidy (state : State) : Prop extends Steady state where
  held : ∀ index, (state.world.contentAt? index).isSome = true → state.holds index = true

/-- What becomes of the spans of a session on the way to another state, if some are closed and one
may be started. -/
structure Moves (state after : State) (closed : List (Nat × SpanData))
    (started : Option SpanContext) : Prop where
  exported : after.world.exported = state.world.exported ++ state.exports closed
  grown : after.world.spans.length = state.world.spans.length + started.toList.length
  provider : ∀ index < state.world.spans.length,
    after.world.providerAt? index = state.world.providerAt? index
  content : ∀ index < state.world.spans.length,
    (after.world.contentAt? index).map (·.context) =
      if index ∈ closed.map Prod.fst then none
      else (state.world.contentAt? index).map (·.context)
  fresh : ∀ identity, started = some identity →
    (after.world.contentAt? state.world.spans.length).map (·.context) = some identity
  holders : ∀ index < state.world.spans.length, after.holds index = true →
    state.holds index = true

theorem Moves.lt_of_lt {state after : State} {closed : List (Nat × SpanData)}
    {started : Option SpanContext} (moves : state.Moves after closed started) {index : Nat}
    (inside : index < state.world.spans.length) : index < after.world.spans.length := by
  rw [moves.grown]
  exact Nat.lt_add_right _ inside

end Session.State

/-! ## Records of spans -/

namespace World

variable (world : World) {context : Context} {index : Nat}

/-- The span of a tagged call is recorded if the handler has a tracer and the span is sampled. -/
theorem isSome_record?_tag (handler : Handler) (parent : Context) (rpc : CallContext)
    (info : CallInfo) :
    let context := (world.tag handler parent rpc info).2.context
    context.record?.isSome = (world.traces handler && context.identity.isSampled) := by
  dsimp only
  rw [context_tag, traces]
  cases traced : handler.tracer with
  | none =>
    simp only [startCallSpan, startSpan, traced, Option.bind_none]
    rfl
  | some tracer =>
    cases found : world.providers[tracer]? with
    | none =>
      simp only [startCallSpan, startSpan, traced, found, Option.bind_some, Option.map_none]
      rfl
    | some provider =>
      cases live : provider.live with
      | false =>
        rw [world.startCallSpan_of_dropped handler parent rpc info traced found live,
          Option.bind_some, found, Option.any_some, live]
        rfl
      | true =>
        obtain ⟨started, -⟩ :=
          world.startCallSpan_of_live handler parent rpc info traced found live
        have decided (sampled : Bool) (index : Nat) :
            (if sampled = true then some index else none).isSome = sampled := by
          cases sampled <;> rfl
        rw [started, Option.bind_some, found, Option.any_some, live, Bool.true_and]
        exact decided _ _

theorem contentAt?_of_record? (here : context.record? = some index) :
    world.contentAt? index = (world.spanOf context).data := by
  unfold contentAt? spanOf
  rw [here, Option.bind_some]
  cases world.spans[index]? <;> rfl

theorem concludedAt?_of_record? (here : context.record? = some index) (outcome : Outcome) :
    world.concludedAt? index outcome = ((world.spanOf context).conclude outcome).data := by
  unfold concludedAt? spanOf
  rw [here, Option.bind_some]
  cases world.spans[index]? <;> rfl

/-- Concluding a span keeps its identity. -/
theorem identity_concludedAt? (index : Nat) (outcome : Outcome) :
    (world.concludedAt? index outcome).map (·.context) =
      (world.contentAt? index).map (·.context) := by
  unfold concludedAt? contentAt?
  cases world.spans[index]? with
  | none => rfl
  | some kept => exact kept.span.identity_conclude outcome

theorem providerAt?_of_record? (here : context.record? = some index) :
    world.providerAt? index = world.starterOf context := by
  unfold providerAt? starterOf
  rw [here, Option.bind_some]

theorem data_spanOf (context : Context) :
    (world.spanOf context).data = context.record?.bind world.contentAt? := by
  cases here : context.record? with
  | none =>
    unfold spanOf
    rw [here]
    rfl
  | some index => exact (world.contentAt?_of_record? here).symm

end World

namespace OwnershipLemmas

theorem filterMap_range_of_none {Value : Type} {give : Nat → Option Value}
    (none : ∀ index, give index = none) (count : Nat) : (List.range count).filterMap give = [] :=
  List.filterMap_eq_nil_iff.2 fun index _ => none index

/-- Where only one index gives something, the whole range gives that. -/
theorem filterMap_range_of_sole {Value : Type} {give : Nat → Option Value} {count sole : Nat}
    (inside : sole < count) (silent : ∀ index, index ≠ sole → give index = none) :
    (List.range count).filterMap give = (give sole).toList := by
  induction count with
  | zero => cases inside
  | succ count ih =>
    rw [List.range_succ, List.filterMap_append]
    by_cases last : sole = count
    · have before : (List.range count).filterMap give = [] :=
        List.filterMap_eq_nil_iff.2 fun index present =>
          silent index fun same => by
            have below := List.mem_range.1 present
            omega
      rw [before, last]
      cases given : give count <;> simp [given]
    · rw [ih (by omega)]
      simp [silent count fun same => last same.symm]

end OwnershipLemmas

open DeliveryLemmas OwnershipLemmas

namespace World

variable (world : World) (handler : Handler) {handle : Handle}

/-- Ending the span of a context, as one change. -/
theorem finishSpan_eq (context : Context) :
    world.finishSpan context = { world with
      spans := KeptSpan.replaceAt world.spans context.record? (world.spanOf context).finish
      exported := world.exported ++
        ExportedSpan.ofProvider (world.starterOf context) (world.spanOf context).exported } := by
  dsimp only [finishSpan, absorb]
  rw [starterOf_setSpan, setSpan_eq]
  show World.mk .. = World.mk ..
  congr 1
  · cases world.starterOf context with
    | none => exact (List.append_nil _).symm
    | some provider => rfl
  · exact List.append_nil _

theorem deliverTimes_eq_deliverAll (handle : Handle) (event : Event) (times : Nat) :
    world.deliverTimes handler handle event times =
      world.deliverAll handler (List.replicate times ⟨handle, event⟩) := by
  induction times generalizing world with
  | zero => rfl
  | succ times ih => exact ih (world.deliver handler handle event)

/-- Events that come through one handle are one run of its call. -/
theorem deliverAll_map_eq_commit (known : world.Knows handle) (events : List Event) :
    world.deliverAll handler (events.map (⟨handle, ·⟩)) =
      world.commit handler handle ((handler.call handle).run events (world.progressOf handle)) := by
  rw [world.deliverAll_eq_commit handler known fun delivery present => ?_]
  · rw [List.map_map]
    exact congrArg _ (congrArg (Call.run _ · _) (List.map_id _))
  · obtain ⟨event, -, rfl⟩ := List.mem_map.1 present
    exact .self

end World

namespace Session.State

variable {state after : State}

theorem holds_iff (index : Nat) :
    state.holds index = true ↔ ∃ context ∈ state.held, context.record? = some index := by
  simp [holds]

theorem held_eq : state.held = state.handles.map (·.context) ++ state.world.attached := by
  unfold held handles
  rw [List.map_map]
  rfl

theorem mem_handles {name : String} {call : NamedCall} (found : state.calls.get? name = some call) :
    call.handle ∈ state.handles :=
  List.mem_map.2 ⟨(name, call), (state.calls.get?_eq_some_iff name call).1 found, rfl⟩

theorem mem_held_of_mem_handles {handle : Handle} (present : handle ∈ state.handles) :
    handle.context ∈ state.held := by
  rw [held_eq]
  exact List.mem_append_left _ (List.mem_map_of_mem present)

theorem closings_eq_nil (same : ∀ index, state.holds index = true → after.holds index = true) :
    state.closings none after = [] := by
  refine filterMap_range_of_none (fun index => ?_) _
  rw [closing?, Option.map_eq_none_iff]
  refine if_neg fun left => ?_
  obtain ⟨here, gone⟩ := Bool.and_eq_true_iff.1 left
  rw [same index here] at gone
  cases gone

/-- The record of an open span of a context. -/
theorem Tidy.sound_of_open (tidy : state.Tidy) {context : Context} {index : Nat}
    (here : context.record? = some index) {data : SpanData}
    (isOpen : state.world.contentAt? index = some data) :
    ∃ kept : KeptSpan, kept.Sound ∧ kept.span = state.world.spanOf context := by
  obtain ⟨kept, there, -⟩ := Option.bind_eq_some_iff.1 isOpen
  refine ⟨kept, tidy.sound kept (List.mem_of_getElem? there), ?_⟩
  unfold World.spanOf
  rw [here, Option.bind_some, there]
  rfl

/-- A span that is open is exported when it ends, with the content that it is given last. -/
theorem Tidy.exports_of_record? (tidy : state.Tidy) {context : Context} {index : Nat}
    (here : context.record? = some index) {span : Span}
    (exporting : span.exporting = (state.world.spanOf context).exporting)
    (identity : span.data.map (·.context) = (state.world.contentAt? index).map (·.context)) :
    ExportedSpan.ofProvider (state.world.starterOf context) span.exported =
      state.exports (span.data.map (index, ·)).toList := by
  rw [← World.providerAt?_of_record? _ here]
  cases final : span.data with
  | none =>
    rw [Span.exported, final]
    cases state.world.providerAt? index <;> simp [ExportedSpan.ofProvider, exports]
  | some data =>
    rw [final] at identity
    obtain ⟨former, isOpen, -⟩ := Option.map_eq_some_iff.1 identity.symm
    obtain ⟨kept, sound, same⟩ := tidy.sound_of_open here isOpen
    have exports : span.exporting = true := by
      rw [exporting, ← same]
      refine sound.exporting former ?_
      rw [same, ← World.contentAt?_of_record? _ here, isOpen]
    rw [Span.exported, final, if_pos exports]
    exact (List.append_nil _).symm

theorem mem_map_fst_iff {index target : Nat} {data : Option SpanData} :
    index ∈ ((data.map (target, ·)).toList).map Prod.fst ↔ index = target ∧ data.isSome = true := by
  cases data <;> simp

/-! ## Steps that let the spans be -/

/-- A state with the same spans, in the same hands. -/
structure Quiet (state after : State) : Prop where
  providers : after.world.providers = state.world.providers
  spans : after.world.spans = state.world.spans
  cells : after.world.cells = state.world.cells
  exported : after.world.exported = state.world.exported
  calls : after.calls = state.calls
  attached : after.world.attached = state.world.attached

theorem Quiet.refl (state : State) : state.Quiet state := ⟨rfl, rfl, rfl, rfl, rfl, rfl⟩

theorem Quiet.holds (quiet : state.Quiet after) (index : Nat) :
    after.holds index = state.holds index := by
  unfold State.holds held
  rw [quiet.calls, quiet.attached]

theorem Quiet.tidy (quiet : state.Quiet after) (tidy : state.Tidy) : after.Tidy := by
  have handles : after.handles = state.handles := by
    unfold State.handles
    rw [quiet.calls]
  refine ⟨⟨?exporting, ?sound, ?known, ?tied, ?ended, ?inside⟩, ?held⟩
  case exporting =>
    rw [quiet.providers]
    exact tidy.exporting
  case sound =>
    rw [quiet.spans]
    exact tidy.sound
  case known =>
    unfold World.Knows
    rw [handles, quiet.cells]
    exact tidy.known
  case tied =>
    rw [handles]
    exact tidy.tied
  case ended =>
    unfold World.isEnded World.cellOf World.spanOf
    rw [handles, quiet.cells, quiet.spans]
    exact tidy.ended
  case inside =>
    intro index here
    rw [quiet.holds] at here
    rw [quiet.spans]
    exact tidy.inside index here
  case held =>
    intro index isOpen
    unfold World.contentAt? at isOpen
    rw [quiet.spans] at isOpen
    rw [quiet.holds]
    exact tidy.held index isOpen

theorem Quiet.moves (quiet : state.Quiet after) :
    state.Moves after (state.closings none after) none := by
  rw [closings_eq_nil fun index here => (quiet.holds index).trans here]
  constructor
  case exported => exact quiet.exported.trans (List.append_nil _).symm
  case grown => exact congrArg List.length quiet.spans
  case provider =>
    intro index _
    unfold World.providerAt?
    rw [quiet.spans]
  case content =>
    intro index _
    unfold World.contentAt?
    rw [quiet.spans]
    rfl
  case fresh => exact nofun
  case holders =>
    intro index _ here
    rwa [quiet.holds] at here

/-! ## Steps that deliver an event -/

variable {handle : Handle} {outcome : Progress × Output}

/-- A session in which the outcome of events through one of its handles is written back. -/
def committed (state : State) (handler : Handler) (handle : Handle)
    (outcome : Progress × Output) : State :=
  { state with world := state.world.commit handler handle outcome }

theorem holds_committed (state : State) (handler : Handler) (handle : Handle)
    (outcome : Progress × Output) (index : Nat) :
    (state.committed handler handle outcome).holds index = state.holds index := by
  unfold holds held committed
  rw [commit_eq]

theorem contentAt?_committed (tidy : state.Tidy) (present : handle ∈ state.handles)
    (handler : Handler) (outcome : Progress × Output) (index : Nat) :
    (state.committed handler handle outcome).world.contentAt? index =
      if handle.context.record? = some index then outcome.1.span.data
      else state.world.contentAt? index := by
  unfold committed World.contentAt?
  rw [commit_eq]
  show (KeptSpan.replaceAt _ _ _)[index]?.bind _ = _
  rw [getElem?_replaceAt]
  split
  · next here =>
    have inside := tidy.inside index
      ((holds_iff index).2 ⟨handle.context, mem_held_of_mem_handles present, here⟩)
    rw [List.getElem?_eq_getElem inside]
    rfl
  · rfl

/-- Events through a handle keep a session tidy, if they leave the span as it was but for what they
add to it, or end it, and if a handle that has seen an end is left with no open span. -/
theorem Tidy.committed (tidy : state.Tidy) (present : handle ∈ state.handles) (handler : Handler)
    (kept : (state.world.spanOf handle.context).Kept outcome.1.span ∨ outcome.1.span.data = none)
    (ended : outcome.1.cell.ended = true → outcome.1.span.data = none) :
    (state.committed handler handle outcome).Tidy := by
  have eq := commit_eq state.world handler handle outcome
  have contents := contentAt?_committed tidy present handler outcome
  have holds := state.holds_committed handler handle outcome
  refine ⟨⟨?exporting, ?sound, ?known, ?tied, ?ended, ?inside⟩, ?held⟩
  case exporting =>
    unfold State.committed
    rw [eq]
    exact tidy.exporting
  case sound =>
    unfold State.committed
    rw [eq]
    intro item inside
    rcases mem_replaceAt inside with old | ⟨index, former, here, there, rfl⟩
    · exact tidy.sound item old
    · have sound := tidy.sound former (List.mem_of_getElem? there)
      rcases kept with kept | past
      · refine sound.of_kept ?_
        unfold World.spanOf at kept
        rwa [here, Option.bind_some, there] at kept
      · exact .of_over past
  case known =>
    intro other inside
    unfold State.committed World.Knows
    rw [eq, List.length_set]
    exact tidy.known other inside
  case tied => exact tidy.tied
  case ended =>
    intro other inside past
    rw [World.data_spanOf]
    cases record : other.context.record? with
    | none => rfl
    | some index =>
      rw [Option.bind_some, contents]
      -- A clone of the handle shares its flag. Any other handle has the flag that it had, and its
      -- span, being over, could only be closed again.
      by_cases same : other.cell = handle.cell
      · have flag : outcome.1.cell.ended = true := by
          rw [← World.cellOf_commit state.world handler (tidy.known handle present) outcome, ← same]
          exact past
        rw [if_pos ((tidy.tied other inside handle present same).symm.trans record)]
        exact ended flag
      · have before : state.world.isEnded other = true := by
          have unchanged : (state.world.commit handler handle outcome).cellOf other.cell =
              state.world.cellOf other.cell := by
            unfold World.cellOf
            rw [eq, List.getElem?_set_ne fun equal => same equal.symm]
          exact (congrArg Cell.ended unchanged).symm.trans past
        have gone := tidy.ended other inside before
        rw [World.data_spanOf, record, Option.bind_some] at gone
        split
        · next here =>
          rcases kept with kept | none
          · have identity := kept.identity
            rw [World.data_spanOf, here, Option.bind_some, gone] at identity
            exact Option.map_eq_none_iff.1 identity
          · exact none
        · exact gone
  case inside =>
    intro index here
    rw [holds] at here
    unfold State.committed
    rw [eq]
    show index < (KeptSpan.replaceAt _ _ _).length
    rw [length_replaceAt]
    exact tidy.inside index here
  case held =>
    intro index isOpen
    rw [contents] at isOpen
    rw [holds]
    split at isOpen
    · next here =>
      exact (holds_iff index).2 ⟨handle.context, mem_held_of_mem_handles present, here⟩
    · exact tidy.held index isOpen

theorem Tidy.moves_committed (tidy : state.Tidy) (present : handle ∈ state.handles)
    (handler : Handler) {closed : List (Nat × SpanData)}
    (exported : ExportedSpan.ofProvider (state.world.starterOf handle.context) outcome.2.spans =
      state.exports closed)
    (own : ∀ index ∈ closed.map Prod.fst, handle.context.record? = some index)
    (content : ∀ index, handle.context.record? = some index →
      outcome.1.span.data.map (·.context) = if index ∈ closed.map Prod.fst then none
        else (state.world.contentAt? index).map (·.context)) :
    state.Moves (state.committed handler handle outcome) closed none := by
  have eq := commit_eq state.world handler handle outcome
  have length : (state.committed handler handle outcome).world.spans.length =
      state.world.spans.length := by
    unfold State.committed
    rw [eq]
    exact length_replaceAt _ _ _
  constructor
  case exported =>
    unfold State.committed
    rw [eq]
    exact congrArg (state.world.exported ++ ·) exported
  case grown => exact length
  case provider =>
    intro index _
    unfold State.committed World.providerAt?
    rw [eq]
    show (KeptSpan.replaceAt _ _ _)[index]?.map _ = _
    rw [getElem?_replaceAt]
    split
    · rw [Option.map_map]
      rfl
    · rfl
  case content =>
    intro index _
    rw [contentAt?_committed tidy present]
    by_cases here : handle.context.record? = some index
    · rw [if_pos here]
      exact content index here
    · rw [if_neg here, if_neg fun closing => here (own index closing)]
  case fresh => exact nofun
  case holders =>
    intro index _ here
    rwa [holds_committed] at here

/-- A handle that has seen an end has no open span, and events do not change that. -/
theorem Tidy.over_of_run (tidy : state.Tidy) (present : handle ∈ state.handles) (handler : Handler)
    (events : List Event) (past : (state.world.progressOf handle).cell.ended = true) :
    ((handler.call handle).run events (state.world.progressOf handle)).1.span.data = none := by
  have gone := tidy.ended handle present past
  rw [Call.span_run_of_over gone]
  exact gone

/-- Events before an end close nothing. -/
theorem Tidy.early (tidy : state.Tidy) (present : handle ∈ state.handles) (handler : Handler)
    {events : List Event} (early : ∀ event ∈ events, event.isEnd = false) :
    let after := state.committed handler handle
      ((handler.call handle).run events (state.world.progressOf handle))
    after.Tidy ∧ state.Moves after [] none := by
  obtain ⟨silent, kept⟩ :=
    (handler.call handle).spans_run_early early (state.world.progressOf handle)
  constructor
  · refine tidy.committed present handler (.inl kept) fun flag => ?_
    have none : events.any (·.isEnd) = false :=
      List.any_eq_false.2 fun event inside => Bool.eq_false_iff.1 (early event inside)
    rw [Call.ended_run, none, Bool.or_false] at flag
    exact tidy.over_of_run present handler events flag
  · refine tidy.moves_committed present handler ?_ nofun fun index here => ?_
    · rw [silent]
      cases state.world.starterOf handle.context <;> rfl
    · rw [if_neg nofun, World.contentAt?_of_record? _ here]
      exact kept.identity

theorem closings_of_end (after : State) {target : Nat}
    (inside : target < state.world.spans.length) (outcome : Outcome) :
    state.closings (some (target, outcome)) after =
      ((state.world.concludedAt? target outcome).map (target, ·)).toList := by
  unfold closings
  rw [filterMap_range_of_sole inside fun index other => ?_]
  · rw [closing?, if_pos rfl]
  · rw [closing?, if_neg other]
    rfl

/-- An end closes the span that it comes to. -/
theorem Tidy.closing (tidy : state.Tidy) (present : handle ∈ state.handles) (handler : Handler)
    {event : Event} {completion : Completion} (ending : event.completion? = some completion)
    (times : Nat) {target : Nat} (here : handle.context.record? = some target) :
    let after := state.committed handler handle
      ((handler.call handle).run (List.replicate (times + 1) event)
        (state.world.progressOf handle))
    after.Tidy ∧ state.Moves after (state.closings
      (some (target, handler.role.outcome completion.failure)) after) none := by
  intro after
  have past : (state.world.progressOf handle).cell.ended = true →
      (state.world.progressOf handle).span.data = none := tidy.ended handle present
  obtain ⟨spans, gone⟩ := (handler.call handle).run_replicate_closing ending past times
  have inside := tidy.inside target
    ((holds_iff target).2 ⟨handle.context, mem_held_of_mem_handles present, here⟩)
  refine ⟨tidy.committed present handler (.inr gone) fun _ => gone, ?_⟩
  rw [closings_of_end after inside, World.concludedAt?_of_record? _ here]
  have identity := (state.world.spanOf handle.context).identity_conclude
    (handler.role.outcome completion.failure)
  rw [← World.contentAt?_of_record? _ here] at identity
  refine tidy.moves_committed present handler ?_ (fun index closed => ?_) fun index same => ?_
  · rw [spans]
    exact tidy.exports_of_record? here rfl identity
  · rw [(mem_map_fst_iff.1 closed).1]
    exact here
  · obtain rfl := Option.some.inj (here.symm.trans same)
    rw [gone]
    split
    · rfl
    · next still =>
      rw [← identity]
      refine (Option.map_eq_none_iff.2 ?_).symm
      rw [mem_map_fst_iff] at still
      exact Option.not_isSome_iff_eq_none.1 fun closed => still ⟨rfl, closed⟩

/-! ## Steps that change holders -/

/-- A session in which the span of a context has ended. -/
def finished (state : State) (context : Context) : State :=
  { state with world := state.world.finishSpan context }

theorem contentAt?_finished (state : State) (context : Context) (index : Nat) :
    (state.finished context).world.contentAt? index =
      if context.record? = some index then none else state.world.contentAt? index := by
  unfold finished World.contentAt?
  rw [World.finishSpan_eq]
  show (KeptSpan.replaceAt _ _ _)[index]?.bind _ = _
  rw [getElem?_replaceAt]
  split
  · cases state.world.spans[index]? <;> rfl
  · rfl

theorem holds_finished (state : State) (context : Context) (index : Nat) :
    (state.finished context).holds index = state.holds index := by
  unfold finished holds held
  rw [World.finishSpan_eq]

theorem Steady.finished (steady : state.Steady) (context : Context) :
    (state.finished context).Steady := by
  refine ⟨?exporting, ?sound, ?known, ?tied, ?ended, ?inside⟩
  case exporting =>
    unfold State.finished
    rw [World.finishSpan_eq]
    exact steady.exporting
  case sound =>
    unfold State.finished
    rw [World.finishSpan_eq]
    intro kept present
    rcases mem_replaceAt present with old | ⟨index, former, -, there, rfl⟩
    · exact steady.sound kept old
    · exact .of_over rfl
  case known =>
    unfold State.finished World.Knows
    rw [World.finishSpan_eq]
    exact steady.known
  case tied => exact steady.tied
  case ended =>
    intro handle present past
    have before : state.world.isEnded handle = true := by
      unfold State.finished at past
      rwa [World.finishSpan_eq] at past
    have gone := steady.ended handle present before
    rw [World.data_spanOf] at gone ⊢
    cases record : handle.context.record? with
    | none => rfl
    | some index =>
      rw [record, Option.bind_some] at gone
      rw [Option.bind_some, contentAt?_finished, gone, ite_self]
  case inside =>
    intro index here
    rw [holds_finished] at here
    unfold State.finished
    rw [World.finishSpan_eq]
    exact Nat.lt_of_lt_of_eq (steady.inside index here) (length_replaceAt _ _ _).symm

/-- A context that is let go was held by somebody else, or its span ends. -/
theorem letGo_cases (state : State) (context : Context) :
    (state.letGo context = state ∧
        ∀ index, context.record? = some index → state.holds index = true) ∨
      ∃ index, context.record? = some index ∧ state.holds index = false ∧
        state.letGo context = state.finished context := by
  unfold letGo World.release finished
  cases here : context.record? with
  | none => exact .inl ⟨rfl, nofun⟩
  | some index =>
    show (State.mk (if state.holds index = true then state.world
      else state.world.finishSpan context) _ _ _ _ _ _ = _ ∧ _) ∨
      ∃ _, _ ∧ _ ∧ State.mk (if state.holds index = true then state.world
        else state.world.finishSpan context) _ _ _ _ _ _ = _
    cases others : state.holds index with
    | true => exact .inl ⟨rfl, fun other same => Option.some.inj same ▸ others⟩
    | false => exact .inr ⟨index, rfl, others, rfl⟩

/-- A session in which handles and contexts have changed hands. A cell, or a span that was `started`
may have come in under an `added` context, and one context may be `gone`. -/
structure Rearranged (state mid : State) (added gone : Context) (started : Option SpanContext) :
    Prop where
  exporting : ∀ provider ∈ mid.world.providers, provider.exporting = true
  exported : mid.world.exported = state.world.exported
  spans : ∃ new, mid.world.spans = state.world.spans ++ new ∧ (∀ kept ∈ new, kept.Sound) ∧
    new.map (·.span.data.map (·.context)) = started.toList.map some
  cells : ∃ new, mid.world.cells = state.world.cells ++ new ∧ ∀ cell ∈ new, cell = .fresh
  handles : ∀ handle ∈ mid.handles,
    (∃ former ∈ state.handles, former.cell = handle.cell ∧ former.context = handle.context) ∨
      (state.world.cells.length ≤ handle.cell ∧ handle.cell < mid.world.cells.length ∧
        handle.context = added)
  held : ∀ context ∈ mid.held, context ∈ state.held ∨ context = added
  origin : ∀ index, added.record? = some index →
    state.holds index = true ∨
      (state.world.spans.length ≤ index ∧ index < mid.world.spans.length)
  taken : ∀ index, state.world.spans.length ≤ index → index < mid.world.spans.length →
    mid.holds index = true
  released : ∀ context ∈ state.held, context ∈ mid.held ∨ context = gone
  owned : gone ∈ state.held ∨ gone.record? = none

namespace Rearranged

variable {mid : State} {added gone : Context} {started : Option SpanContext}

theorem getElem?_of_lt (moved : state.Rearranged mid added gone started) {index : Nat}
    (old : index < state.world.spans.length) :
    mid.world.spans[index]? = state.world.spans[index]? := by
  obtain ⟨new, spans, -⟩ := moved.spans
  rw [spans, List.getElem?_append_left old]

theorem contentAt?_of_lt (moved : state.Rearranged mid added gone started) {index : Nat}
    (old : index < state.world.spans.length) :
    mid.world.contentAt? index = state.world.contentAt? index := by
  unfold World.contentAt?
  rw [moved.getElem?_of_lt old]

theorem steady (moved : state.Rearranged mid added gone started) (tidy : state.Tidy) :
    mid.Steady := by
  obtain ⟨newSpans, spans, sound, -⟩ := moved.spans
  obtain ⟨newCells, cells, fresh⟩ := moved.cells
  have oldCell {former : Handle} (present : former ∈ state.handles) :
      former.cell < state.world.cells.length := tidy.known former present
  refine ⟨moved.exporting, ?sound, ?known, ?tied, ?ended, ?inside⟩
  case sound =>
    rw [spans]
    intro kept present
    rcases List.mem_append.1 present with old | new
    · exact tidy.sound kept old
    · exact sound kept new
  case known =>
    intro handle present
    rcases moved.handles handle present with ⟨former, there, cell, -⟩ | ⟨-, inside, -⟩
    · have old := oldCell there
      rw [World.Knows, cells, List.length_append, ← cell]
      omega
    · exact inside
  case tied =>
    -- A new cell is none of the old ones, and all handles that have it have the added context.
    intro one first other second same
    rcases moved.handles one first with ⟨formerOne, oneThere, oneCell, oneContext⟩ |
        ⟨oneNew, -, oneAdded⟩ <;>
      rcases moved.handles other second with ⟨formerOther, otherThere, otherCell, otherContext⟩ |
        ⟨otherNew, -, otherAdded⟩
    · rw [← oneContext, ← otherContext]
      exact tidy.tied formerOne oneThere formerOther otherThere
        (oneCell.trans (same.trans otherCell.symm))
    · have old := oldCell oneThere
      omega
    · have old := oldCell otherThere
      omega
    · rw [oneAdded, otherAdded]
  case ended =>
    intro handle present past
    rw [World.data_spanOf]
    rcases moved.handles handle present with ⟨former, there, cell, context⟩ | ⟨new, inside, -⟩
    · have before : state.world.isEnded former = true := by
        unfold World.isEnded World.cellOf at past ⊢
        rwa [cells, ← cell, List.getElem?_append_left (oldCell there)] at past
      have gone := tidy.ended former there before
      rw [World.data_spanOf, context] at gone
      cases record : handle.context.record? with
      | none => rfl
      | some index =>
        rw [record, Option.bind_some] at gone
        have old := tidy.inside index
          ((holds_iff index).2 ⟨_, mem_held_of_mem_handles there, context ▸ record⟩)
        rw [Option.bind_some, moved.contentAt?_of_lt old, gone]
    · -- A new cell has seen no end.
      unfold World.isEnded World.cellOf at past
      rw [cells, List.length_append] at inside
      rw [cells, List.getElem?_append_right new, List.getElem?_eq_getElem (by omega),
        fresh _ (List.getElem_mem _)] at past
      cases past
  case inside =>
    intro index here
    obtain ⟨context, present, record⟩ := (holds_iff index).1 here
    rcases moved.held context present with old | rfl
    · have inside := tidy.inside index ((holds_iff index).2 ⟨context, old, record⟩)
      rw [spans, List.length_append]
      omega
    · rcases moved.origin index record with old | ⟨-, new⟩
      · have inside := tidy.inside index old
        rw [spans, List.length_append]
        omega
      · exact new

theorem tidy_letGo (moved : state.Rearranged mid added gone started) (tidy : state.Tidy) :
    (mid.letGo gone).Tidy := by
  have steady := moved.steady tidy
  obtain ⟨newSpans, spans, -⟩ := moved.spans
  have held (index : Nat) (isOpen : (mid.world.contentAt? index).isSome = true) :
      mid.holds index = true ∨ gone.record? = some index := by
    rcases Nat.lt_or_ge index state.world.spans.length with old | new
    · rw [moved.contentAt?_of_lt old] at isOpen
      obtain ⟨context, present, record⟩ := (holds_iff index).1 (tidy.held index isOpen)
      rcases moved.released context present with still | rfl
      · exact .inl ((holds_iff index).2 ⟨context, still, record⟩)
      · exact .inr record
    · refine .inl (moved.taken index new (Nat.lt_of_not_le fun outside => ?_))
      unfold World.contentAt? at isOpen
      rw [List.getElem?_eq_none outside] at isOpen
      cases isOpen
  rcases mid.letGo_cases gone with ⟨same, others⟩ | ⟨last, record, alone, ended⟩
  · rw [same]
    refine { steady with held := fun index isOpen => ?_ }
    exact (held index isOpen).elim id (others index)
  · rw [ended]
    refine { steady.finished gone with held := fun index isOpen => ?_ }
    rw [contentAt?_finished] at isOpen
    split at isOpen
    · cases isOpen
    · next other =>
      rw [holds_finished]
      exact (held index isOpen).resolve_right other

/-- By itself the change of hands closes nothing. -/
theorem moves (moved : state.Rearranged mid added gone started) : state.Moves mid [] started := by
  obtain ⟨new, spans, -, contexts⟩ := moved.spans
  constructor
  case exported => exact moved.exported.trans (List.append_nil _).symm
  case grown =>
    have lengths := congrArg List.length contexts
    rw [List.length_map, List.length_map] at lengths
    rw [spans, List.length_append, lengths]
  case provider =>
    intro index old
    unfold World.providerAt?
    rw [moved.getElem?_of_lt old]
  case content =>
    intro index old
    rw [moved.contentAt?_of_lt old]
    exact (if_neg nofun).symm
  case fresh =>
    rintro identity rfl
    obtain ⟨kept, rfl, same⟩ := List.map_eq_singleton_iff.1 contexts
    unfold World.contentAt?
    rw [spans, List.getElem?_concat_length]
    exact same
  case holders =>
    intro index old here
    obtain ⟨context, present, record⟩ := (holds_iff index).1 here
    rcases moved.held context present with former | rfl
    · exact (holds_iff index).2 ⟨context, former, record⟩
    · rcases moved.origin index record with held | ⟨new, -⟩
      · exact held
      · omega

/-- A span that is held no more has lost the context that is gone. -/
theorem lost (moved : state.Rearranged mid added gone started) {index : Nat}
    (here : state.holds index = true) (left : mid.holds index = false) :
    gone ∈ state.held ∧ gone.record? = some index := by
  obtain ⟨context, present, record⟩ := (holds_iff index).1 here
  rcases moved.released context present with still | rfl
  · rw [(holds_iff index).2 ⟨context, still, record⟩] at left
    cases left
  · exact ⟨present, record⟩

/-- The span that has lost its last holder ends with the content that it has. -/
theorem moves_finished (moved : state.Rearranged mid added gone started) (tidy : state.Tidy)
    {last : Nat} (record : gone.record? = some last) (old : last < state.world.spans.length) :
    state.Moves (mid.finished gone) ((state.world.contentAt? last).map (last, ·)).toList
      started := by
  have before := moved.moves
  have eq := mid.world.finishSpan_eq gone
  constructor
  case exported =>
    have span : mid.world.spanOf gone = state.world.spanOf gone := by
      unfold World.spanOf
      rw [record, Option.bind_some, Option.bind_some, moved.getElem?_of_lt old]
    have starter : mid.world.starterOf gone = state.world.starterOf gone := by
      unfold World.starterOf
      rw [record, Option.bind_some, Option.bind_some, moved.getElem?_of_lt old]
    have content := state.world.contentAt?_of_record? record
    unfold State.finished
    rw [eq, span, starter]
    show mid.world.exported ++ _ = _
    rw [moved.exported, tidy.exports_of_record? record rfl (by rw [content]), content]
  case grown =>
    unfold State.finished
    rw [eq]
    exact (length_replaceAt _ _ _).trans before.grown
  case provider =>
    intro index inside
    rw [← before.provider index inside]
    unfold State.finished World.providerAt?
    rw [eq]
    show (KeptSpan.replaceAt _ _ _)[index]?.map _ = _
    rw [getElem?_replaceAt]
    split
    · rw [Option.map_map]
      rfl
    · rfl
  case content =>
    intro index inside
    rw [contentAt?_finished]
    by_cases same : index = last
    · subst same
      rw [if_pos record]
      split
      · rfl
      · next still =>
        rw [mem_map_fst_iff] at still
        rw [Option.not_isSome_iff_eq_none.1 fun isOpen => still ⟨rfl, isOpen⟩]
    · rw [if_neg fun other => same (Option.some.inj (other.symm.trans record)),
        if_neg fun closed => same (mem_map_fst_iff.1 closed).1, moved.contentAt?_of_lt inside]
  case fresh =>
    intro identity found
    have later : ¬gone.record? = some state.world.spans.length := fun same => by
      have equal := Option.some.inj (same.symm.trans record)
      omega
    rw [contentAt?_finished, if_neg later]
    exact before.fresh identity found
  case holders =>
    intro index inside present
    rw [holds_finished] at present
    exact before.holders index inside present

/-- What a session closes when a context is let go. -/
theorem moves_letGo (moved : state.Rearranged mid added gone started) (tidy : state.Tidy) :
    state.Moves (mid.letGo gone) (state.closings none (mid.letGo gone)) started := by
  rcases mid.letGo_cases gone with ⟨same, others⟩ | ⟨last, record, alone, ended⟩
  · rw [same, closings_eq_nil fun index here => ?_]
    · exact moved.moves
    · cases left : mid.holds index with
      | true => rfl
      | false => rw [← left, others index (moved.lost here left).2]
  · have own : gone ∈ state.held := moved.owned.resolve_right fun none => by
      rw [none] at record
      cases record
    have here : state.holds last = true := (holds_iff last).2 ⟨gone, own, record⟩
    have old := tidy.inside last here
    have closed : state.closings none (mid.finished gone) =
        ((state.world.contentAt? last).map (last, ·)).toList := by
      unfold closings
      rw [filterMap_range_of_sole old fun index other => ?_]
      · rw [closing?, here, holds_finished, alone]
        rfl
      · rw [closing?, Option.map_eq_none_iff]
        refine if_neg fun both => other ?_
        obtain ⟨held, left⟩ := Bool.and_eq_true_iff.1 both
        rw [holds_finished, Bool.not_eq_true'] at left
        exact Option.some.inj ((moved.lost held left).2.symm.trans record)
    rw [ended, closed]
    exact moved.moves_finished tidy record old

end Rearranged

end Session.State

end RpcTelemetry
