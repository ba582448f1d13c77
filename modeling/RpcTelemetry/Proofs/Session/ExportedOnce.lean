import RpcTelemetry.Proofs.Session.Steps

/-!
# Every span is exported once

A script keeps a session tidy (`Tidy.run`). `State.fate?` follows one span through it, to the first
end that comes to the span or to the moment when its last holder lets it go. `State.closed` are the
spans that the script closes. The two agree span by span (`ExportedOnce`), whoever holds the span
and however often it ends.

Main statement: `State.exported_once`.
-/

namespace RpcTelemetry.Session

/-- A call that was tagged: whether its handler had a tracer then, and its handle. -/
structure TaggedCall where
  traced : Bool
  handle : Handle

/-- Whether the span of a call is sampled. Without a tracer it has none. -/
def TaggedCall.isSampled (call : TaggedCall) : Bool :=
  call.traced && call.handle.context.identity.isSampled

/-- The position of the span of a call among the records. -/
def TaggedCall.span? (call : TaggedCall) : Option Nat := call.handle.context.record?

namespace State

/-- The session after a script. -/
def run (state : State) (script : List Step) : State :=
  script.foldl (fun state step => (state.step step).1) state

/-- The calls that a script tags, in order. -/
def tagged (state : State) : List Step → List TaggedCall
  | [] => []
  | step :: rest =>
    ((state.tagged? step).map (⟨state.traces step, ·⟩)).toList ++ (state.step step).1.tagged rest

/-- The spans that ends come to in a script, in order, each with the outcome that is told. -/
def ends (state : State) : List Step → List (Nat × Outcome)
  | [] => []
  | step :: rest => (state.endOf? step).toList ++ (state.step step).1.ends rest

/-- The spans that a script closes, in order. -/
def closed (state : State) : List Step → List (Nat × SpanData)
  | [] => []
  | step :: rest => state.closes step ++ (state.step step).1.closed rest

/-- What the span at a position is closed with in a script. The first end that comes to it concludes
it. If nobody holds it any more before that, it is closed as it is. -/
def fate? (state : State) (index : Nat) : List Step → Option SpanData
  | [] => none
  | step :: rest =>
    let after := (state.step step).1
    match state.endOf? step with
    | some (target, outcome) =>
      if target = index then state.world.concludedAt? index outcome else after.fate? index rest
    | none =>
      if state.holds index && !after.holds index then state.world.contentAt? index
      else after.fate? index rest

/-- The steps that `State.finish` takes. -/
def winding (state : State) : List Step :=
  List.replicate state.world.attached.length .release ++ state.calls.keys.map .drop

/-- A script closes the span at a position once at most, with its fate, and has done so as soon as
an end has come or nobody holds the span. Without an end the span has no outcome. -/
structure ExportedOnce (state : State) (script : List Step) (index : Nat)
    (identity : SpanContext) : Prop where
  once : (state.closed script).filter (·.1 = index) =
    ((state.fate? index script).map (index, ·)).toList
  due : (state.fate? index script).isSome = true ↔
    (∃ ending ∈ state.ends script, ending.1 = index) ∨ (state.run script).holds index = false
  identity : ∀ data, state.fate? index script = some data → data.context = identity
  unset : (∀ ending ∈ state.ends script, ending.1 ≠ index) →
    ∀ data, state.fate? index script = some data →
      data.status = .unset ∧ ∀ item ∈ data.attributes, item.key ≠ Convention.statusCode

/-- A session without calls, in a process where all spans are over, nothing is attached and all
providers export. -/
structure Fresh (state : State) : Prop where
  exporting : ∀ provider ∈ state.world.providers, provider.exporting = true
  past : ∀ kept ∈ state.world.spans, kept.span.data = none
  unused : state.calls.entries = []
  released : state.world.attached = []

variable {state : State} {script : List Step} {index : Nat}

open OwnershipLemmas

theorem held_of_fresh (fresh : state.Fresh) : state.held = [] := by
  unfold held
  rw [fresh.unused, fresh.released]
  rfl

theorem Fresh.tidy (fresh : state.Fresh) : state.Tidy := by
  have handles : state.handles = [] := by
    unfold State.handles
    rw [fresh.unused]
    rfl
  refine ⟨⟨fresh.exporting, ?sound, ?known, ?tied, ?ended, ?inside⟩, ?held⟩
  case sound => exact fun kept present => .of_over (fresh.past kept present)
  case known =>
    rw [handles]
    exact fun handle present => absurd present List.not_mem_nil
  case tied =>
    rw [handles]
    exact fun one present => absurd present List.not_mem_nil
  case ended =>
    rw [handles]
    exact fun handle present => absurd present List.not_mem_nil
  case inside =>
    intro index here
    obtain ⟨context, present, -⟩ := (holds_iff index).1 here
    rw [held_of_fresh fresh] at present
    exact absurd present List.not_mem_nil
  case held =>
    intro index isOpen
    unfold World.contentAt? at isOpen
    cases found : state.world.spans[index]? with
    | none =>
      rw [found] at isOpen
      cases isOpen
    | some kept =>
      rw [found, Option.bind_some, fresh.past kept (List.mem_of_getElem? found)] at isOpen
      cases isOpen

/-- A session starts out fresh in a process that is at rest. -/
theorem fresh_initial (settings : Settings) {world : World} (other : Option Nat)
    (exporting : ∀ provider ∈ world.providers, provider.exporting = true)
    (past : ∀ kept ∈ world.spans, kept.span.data = none) (released : world.attached = []) :
    (State.initial settings world other).Fresh := by
  have own : settings.provider.exporting = true := by
    unfold Settings.provider
    split <;> rfl
  have start : ∃ exporter backing, State.initial settings world other =
      ⟨{ world with
          providers := world.providers ++ [settings.provider]
          meters := world.meters ++ [.fresh] }, .empty, .empty, some world.providers.length,
        exporter, world.meters.length, backing⟩ := by
    unfold State.initial
    dsimp only [World.addProvider, World.addMeter]
    split
    · exact ⟨_, _, rfl⟩
    · exact ⟨_, _, rfl⟩
  obtain ⟨exporter, backing, start⟩ := start
  rw [start]
  refine ⟨fun provider present => ?_, past, rfl, released⟩
  rcases List.mem_append.1 present with old | new
  · exact exporting provider old
  · rw [List.mem_singleton.1 new]
    exact own

/-! ## One span in one step -/

theorem run_cons (step : Step) (rest : List Step) :
    state.run (step :: rest) = (state.step step).1.run rest := rfl

theorem closing?_of_le {ending : Option (Nat × Outcome)} {after : State}
    (outside : state.world.spans.length ≤ index) : state.closing? ending after index = none := by
  have missing : state.world.spans[index]? = none := List.getElem?_eq_none outside
  unfold closing? World.concludedAt? World.contentAt?
  rw [missing]
  split
  · exact ite_self none
  · exact ite_self none

theorem lt_of_contentAt? {data : SpanData} (isOpen : state.world.contentAt? index = some data) :
    index < state.world.spans.length := by
  obtain ⟨kept, there, -⟩ := Option.bind_eq_some_iff.1 isOpen
  exact (List.getElem?_eq_some_iff.1 there).1

theorem lt_of_isOpen (isOpen : (state.world.contentAt? index).isSome = true) :
    index < state.world.spans.length := by
  obtain ⟨data, there⟩ := Option.isSome_iff_exists.1 isOpen
  exact lt_of_contentAt? there

/-- Of one span a step closes what is told of it. -/
theorem filter_closings (state : State) (ending : Option (Nat × Outcome)) (after : State)
    (index : Nat) :
    (state.closings ending after).filter (·.1 = index) =
      ((state.closing? ending after index).map (index, ·)).toList := by
  unfold closings
  rw [List.filter_filterMap]
  have others (other : Nat) (different : other ≠ index) :
      ((state.closing? ending after other).map (other, ·)).filter (·.1 = index) = none := by
    cases state.closing? ending after other with
    | none => rfl
    | some data => exact if_neg (by simpa using different)
  rcases Nat.lt_or_ge index state.world.spans.length with inside | outside
  · rw [filterMap_range_of_sole inside others]
    cases state.closing? ending after index with
    | none => rfl
    | some data => exact congrArg Option.toList (if_pos (by simp))
  · rw [closing?_of_le outside]
    refine List.filterMap_eq_nil_iff.2 fun other below => others other fun same => ?_
    rw [same, List.mem_range] at below
    exact absurd below (Nat.not_lt.2 outside)

theorem mem_closings_iff {ending : Option (Nat × Outcome)} {after : State} :
    index ∈ (state.closings ending after).map Prod.fst ↔
      (state.closing? ending after index).isSome = true := by
  have filtered := state.filter_closings ending after index
  constructor
  · intro present
    obtain ⟨⟨other, data⟩, inside, rfl⟩ := List.mem_map.1 present
    have kept : (other, data) ∈ (state.closings ending after).filter (·.1 = other) :=
      List.mem_filter.2 ⟨inside, decide_eq_true rfl⟩
    rw [filtered] at kept
    cases told : state.closing? ending after other with
    | none =>
      rw [told] at kept
      cases kept
    | some data => rfl
  · intro told
    obtain ⟨data, told⟩ := Option.isSome_iff_exists.1 told
    have kept : (index, data) ∈ (state.closings ending after).filter (·.1 = index) := by
      rw [filtered, told]
      exact List.mem_singleton_self _
    exact List.mem_map.2 ⟨_, (List.mem_filter.1 kept).1, rfl⟩

/-- An end comes to a span that is held. -/
theorem Tidy.inside_of_endOf? (tidy : state.Tidy) {step : Step} {outcome : Outcome}
    (ending : state.endOf? step = some (index, outcome)) : index < state.world.spans.length := by
  cases step with
  | event name handler event times =>
    obtain ⟨completion, -, ending⟩ := Option.bind_eq_some_iff.1 ending
    obtain ⟨call, found, ending⟩ := Option.bind_eq_some_iff.1 ending
    obtain ⟨named, -, ending⟩ := Option.bind_eq_some_iff.1 ending
    obtain ⟨target, record, ending⟩ := Option.bind_eq_some_iff.1 ending
    split at ending
    · cases ending
    · obtain ⟨rfl, -⟩ := Prod.mk.inj (Option.some.inj ending)
      exact tidy.inside target
        ((holds_iff target).2 ⟨_, mem_held_of_mem_handles (mem_handles found), record⟩)
  | _ => cases ending

/-- Whether a step lets the span at a position be: it brings no end to it and does not take its last
holder away. -/
def Passes (state : State) (step : Step) (index : Nat) : Prop :=
  match state.endOf? step with
  | some (target, _) => target ≠ index
  | none => (state.holds index && !(state.step step).1.holds index) = false

instance (step : Step) (index : Nat) : Decidable (state.Passes step index) := by
  unfold Passes
  split <;> infer_instance

section

variable {step : Step} {rest : List Step}

theorem fate?_cons_of_passes (passes : state.Passes step index) :
    state.fate? index (step :: rest) = (state.step step).1.fate? index rest := by
  unfold Passes at passes
  rw [fate?]
  split
  · next target outcome told =>
    rw [told] at passes
    exact if_neg passes
  · next told =>
    rw [told] at passes
    dsimp only at passes
    rw [passes]
    rfl

theorem closing?_of_passes (passes : state.Passes step index) :
    state.closing? (state.endOf? step) (state.step step).1 index = none := by
  unfold Passes at passes
  unfold closing?
  split
  · next target outcome told =>
    rw [told] at passes
    exact if_neg fun same => passes same.symm
  · next told =>
    rw [told] at passes
    dsimp only at passes
    rw [passes]
    rfl

theorem fate?_cons_of_not_passes (stops : ¬state.Passes step index) :
    state.fate? index (step :: rest) =
      state.closing? (state.endOf? step) (state.step step).1 index := by
  unfold Passes at stops
  rw [fate?]
  unfold closing?
  cases told : state.endOf? step with
  | some ending =>
    rw [told] at stops
    have same := Decidable.not_not.1 stops
    exact (if_pos same).trans (if_pos same.symm).symm
  | none =>
    rw [told] at stops
    have lost := Bool.of_not_eq_false stops
    exact (if_pos lost).trans (if_pos lost).symm

/-- What a span is closed with has the identity of the span. -/
theorem identity_closing? (stops : ¬state.Passes step index) :
    (state.closing? (state.endOf? step) (state.step step).1 index).map (·.context) =
      (state.world.contentAt? index).map (·.context) := by
  unfold Passes at stops
  unfold closing?
  split
  · next target outcome told =>
    rw [told] at stops
    rw [if_pos (Decidable.not_not.1 stops).symm]
    exact state.world.identity_concludedAt? index outcome
  · next told =>
    rw [told] at stops
    dsimp only at stops
    rw [Bool.not_eq_false] at stops
    rw [stops]
    rfl

theorem filter_closed_cons (index : Nat) :
    (state.closed (step :: rest)).filter (·.1 = index) =
      ((state.closing? (state.endOf? step) (state.step step).1 index).map (index, ·)).toList ++
        ((state.step step).1.closed rest).filter (·.1 = index) := by
  rw [closed, List.filter_append, closes, filter_closings]

/-- What holds of the rest of a script holds of the whole, if the first step lets the span be. -/
theorem ExportedOnce.cons {identity : SpanContext} (passes : state.Passes step index)
    (later : (state.step step).1.ExportedOnce rest index identity) :
    state.ExportedOnce (step :: rest) index identity := by
  have fate : state.fate? index (step :: rest) = (state.step step).1.fate? index rest :=
    fate?_cons_of_passes passes
  have ends {ending : Nat × Outcome} (same : ending.1 = index) :
      ending ∈ state.ends (step :: rest) ↔ ending ∈ (state.step step).1.ends rest := by
    refine List.mem_append.trans (or_iff_right fun first => ?_)
    unfold Passes at passes
    rw [Option.mem_toList.1 first] at passes
    exact passes same
  constructor
  case once =>
    rw [filter_closed_cons, closing?_of_passes passes, fate]
    exact later.once
  case due =>
    rw [fate, run_cons, later.due]
    refine or_congr_left ⟨?_, ?_⟩
    · rintro ⟨ending, present, same⟩
      exact ⟨ending, (ends same).2 present, same⟩
    · rintro ⟨ending, present, same⟩
      exact ⟨ending, (ends same).1 present, same⟩
  case identity =>
    rw [fate]
    exact later.identity
  case unset =>
    rw [fate]
    exact fun none => later.unset fun ending present => none ending
      (List.mem_append_right _ present)

end

/-! ## One span in a script -/

theorem Tidy.run (tidy : state.Tidy) (plain : ∀ step ∈ script, step.isPlain = true) :
    (state.run script).Tidy := by
  induction script generalizing state with
  | nil => exact tidy
  | cons step rest ih =>
    obtain ⟨first, later⟩ := List.forall_mem_cons.1 plain
    exact ih (tidy.step first).1 later

/-- Nobody gets hold of a span that is not held any more. -/
theorem Tidy.holds_run (tidy : state.Tidy) (plain : ∀ step ∈ script, step.isPlain = true)
    (inside : index < state.world.spans.length) (lost : state.holds index = false) :
    (state.run script).holds index = false := by
  induction script generalizing state with
  | nil => exact lost
  | cons step rest ih =>
    obtain ⟨first, later⟩ := List.forall_mem_cons.1 plain
    obtain ⟨still, moves⟩ := tidy.step first
    refine ih still later (moves.lt_of_lt inside) ?_
    rw [Bool.eq_false_iff] at lost ⊢
    exact fun here => lost (moves.holders index inside here)

/-- A span that is over is not closed again. -/
theorem Tidy.filter_closed_of_over (tidy : state.Tidy)
    (plain : ∀ step ∈ script, step.isPlain = true) (inside : index < state.world.spans.length)
    (past : state.world.contentAt? index = none) :
    (state.closed script).filter (·.1 = index) = [] := by
  induction script generalizing state with
  | nil => rfl
  | cons step rest ih =>
    obtain ⟨first, later⟩ := List.forall_mem_cons.1 plain
    obtain ⟨still, moves⟩ := tidy.step first
    have silent : state.closing? (state.endOf? step) (state.step step).1 index = none := by
      by_cases passes : state.Passes step index
      · exact closing?_of_passes passes
      · have same := identity_closing? passes
        rw [past] at same
        exact Option.map_eq_none_iff.1 same
    have next : (state.step step).1.world.contentAt? index = none := by
      have same := moves.content index inside
      rw [past] at same
      exact Option.map_eq_none_iff.1 (same.trans (ite_self none))
    rw [filter_closed_cons, silent]
    exact ih still later (moves.lt_of_lt inside) next

/-- An open span is closed with no outcome, unless an end comes to it. -/
theorem Tidy.unset_of_closing? (tidy : state.Tidy) {step : Step} {data : SpanData}
    (silent : state.endOf? step = none)
    (closing : state.closing? (state.endOf? step) (state.step step).1 index = some data) :
    data.status = .unset ∧ ∀ item ∈ data.attributes, item.key ≠ Convention.statusCode := by
  rw [silent] at closing
  unfold closing? at closing
  dsimp only at closing
  split at closing
  · obtain ⟨kept, there, content⟩ := Option.bind_eq_some_iff.1 closing
    exact (tidy.sound kept (List.mem_of_getElem? there)).unconcluded data content
  · cases closing

/-- A step that brings an end or takes the last holder away closes an open span, and nothing closes
it again. -/
theorem Tidy.exportedOnce_of_stops (tidy : state.Tidy) {step : Step} {rest : List Step}
    (plain : ∀ other ∈ step :: rest, other.isPlain = true) {former : SpanData}
    (isOpen : state.world.contentAt? index = some former) (stops : ¬state.Passes step index) :
    state.ExportedOnce (step :: rest) index former.context := by
  obtain ⟨first, later⟩ := List.forall_mem_cons.1 plain
  obtain ⟨still, moves⟩ := tidy.step first
  have inside := lt_of_contentAt? isOpen
  have grown := moves.lt_of_lt inside
  have identity := identity_closing? stops
  rw [isOpen] at identity
  obtain ⟨data, closing, (same : data.context = former.context)⟩ :=
    Option.map_eq_some_iff.1 identity
  have fate : state.fate? index (step :: rest) = some data :=
    (fate?_cons_of_not_passes stops).trans closing
  have past : (state.step step).1.world.contentAt? index = none := by
    refine Option.map_eq_none_iff.1 ((moves.content index inside).trans
      (if_pos (mem_closings_iff.2 ?_)))
    rw [closing]
    rfl
  -- Either an end has come, or nobody holds the span from here on.
  have cause : (∃ outcome, state.endOf? step = some (index, outcome)) ∨
      (state.endOf? step = none ∧ (state.step step).1.holds index = false) := by
    unfold Passes at stops
    cases told : state.endOf? step with
    | some ending =>
      rw [told] at stops
      obtain rfl := Decidable.not_not.1 stops
      exact .inl ⟨ending.2, rfl⟩
    | none =>
      rw [told] at stops
      have lost := Bool.of_not_eq_false stops
      rw [Bool.and_eq_true, Bool.not_eq_true'] at lost
      exact .inr ⟨rfl, lost.2⟩
  have among {outcome : Outcome} (ending : state.endOf? step = some (index, outcome)) :
      (index, outcome) ∈ state.ends (step :: rest) :=
    List.mem_append_left _ (Option.mem_toList.2 ending)
  constructor
  case once =>
    rw [filter_closed_cons, closing, still.filter_closed_of_over later grown past, fate]
    rfl
  case due =>
    rw [fate]
    refine iff_of_true rfl ?_
    rcases cause with ⟨outcome, ending⟩ | ⟨-, lost⟩
    · exact .inl ⟨_, among ending, rfl⟩
    · exact .inr (still.holds_run later grown lost)
  case identity =>
    intro other found
    obtain rfl := Option.some.inj (fate.symm.trans found)
    exact same
  case unset =>
    intro never other found
    obtain rfl := Option.some.inj (fate.symm.trans found)
    rcases cause with ⟨outcome, ending⟩ | ⟨silent, -⟩
    · exact absurd rfl (never _ (among ending))
    · exact tidy.unset_of_closing? silent closing

/-- An open span is exported once in any script. -/
theorem Tidy.exportedOnce (tidy : state.Tidy) (plain : ∀ step ∈ script, step.isPlain = true)
    {former : SpanData} (isOpen : state.world.contentAt? index = some former) :
    state.ExportedOnce script index former.context := by
  induction script generalizing state former with
  | nil =>
    have here : state.holds index = true := tidy.held index (by rw [isOpen]; rfl)
    refine ⟨rfl, ⟨nofun, ?_⟩, nofun, fun _ => nofun⟩
    rintro (⟨ending, present, -⟩ | lost)
    · exact absurd present List.not_mem_nil
    · exact absurd (here.symm.trans lost) nofun
  | cons step rest ih =>
    by_cases passes : state.Passes step index
    · obtain ⟨first, later⟩ := List.forall_mem_cons.1 plain
      obtain ⟨still, moves⟩ := tidy.step first
      have content := moves.content index (lt_of_contentAt? isOpen)
      have remains : ¬index ∈ (state.closes step).map Prod.fst := fun closing => by
        have told := mem_closings_iff.1 closing
        rw [closing?_of_passes passes] at told
        cases told
      rw [isOpen, if_neg remains] at content
      obtain ⟨data, next, (same : data.context = former.context)⟩ :=
        Option.map_eq_some_iff.1 content
      rw [← same]
      exact (ih still later next).cons passes
    · exact tidy.exportedOnce_of_stops plain isOpen passes

/-! ## The calls of a script -/

/-- The span of a tagged call is exported once, from the call on. -/
theorem Tidy.exportedOnce_of_tagged (tidy : state.Tidy)
    (plain : ∀ step ∈ script, step.isPlain = true) {call : TaggedCall}
    (present : call ∈ state.tagged script) (record : call.span? = some index) :
    state.world.spans.length ≤ index ∧
      state.ExportedOnce script index call.handle.context.identity := by
  induction script generalizing state with
  | nil => exact absurd present List.not_mem_nil
  | cons step rest ih =>
    obtain ⟨plainFirst, later⟩ := List.forall_mem_cons.1 plain
    obtain ⟨still, moves⟩ := tidy.step plainFirst
    have passes (new : state.world.spans.length ≤ index) : state.Passes step index := by
      unfold Passes
      split
      · next target outcome told =>
        exact fun same => absurd (tidy.inside_of_endOf? told) (by omega)
      · have free : state.holds index = false := Bool.eq_false_iff.2 fun here =>
          absurd (tidy.inside index here) (Nat.not_lt.2 new)
        rw [free]
        rfl
    rcases List.mem_append.1 present with first | rest
    · obtain ⟨handle, tagged, rfl⟩ := Option.map_eq_some_iff.1 (Option.mem_toList.1 first)
      have last : index = state.world.spans.length := tidy.record?_of_tagged? tagged record
      have started : (state.tagged? step).bind (·.context.recorded?) =
          some handle.context.identity := by
        rw [tagged, Option.bind_some, Context.recorded?,
          show handle.context.record? = _ from record]
        rfl
      have content := moves.fresh handle.context.identity started
      obtain ⟨data, isOpen, identity⟩ := Option.map_eq_some_iff.1 content
      rw [← last] at isOpen
      refine ⟨Nat.le_of_eq last.symm, ?_⟩
      show state.ExportedOnce _ index handle.context.identity
      rw [← identity]
      exact (still.exportedOnce later isOpen).cons (passes (Nat.le_of_eq last.symm))
    · obtain ⟨new, once⟩ := ih still later rest
      rw [moves.grown] at new
      have new := Nat.le_of_add_right_le new
      exact ⟨new, once.cons (passes new)⟩

theorem isSome_span?_of_tagged {call : TaggedCall} (present : call ∈ state.tagged script) :
    call.span?.isSome = call.isSampled := by
  induction script generalizing state with
  | nil => exact absurd present List.not_mem_nil
  | cons step rest ih =>
    rcases List.mem_append.1 present with first | later
    · obtain ⟨handle, tagged, rfl⟩ := Option.map_eq_some_iff.1 (Option.mem_toList.1 first)
      exact isSome_record?_of_tagged? tagged
    · exact ih later

/-- A step that tags a sampled call adds the record of its span, and no step adds another one. -/
theorem Tidy.tagged?_iff (tidy : state.Tidy) {step : Step} (plain : step.isPlain = true) :
    (∃ handle, state.tagged? step = some handle ∧ handle.context.record? = some index) ↔
      state.world.spans.length ≤ index ∧ index < (state.step step).1.world.spans.length := by
  have grown := (tidy.step plain).2.grown
  constructor
  · rintro ⟨handle, made, record⟩
    rw [made, Option.bind_some, Context.recorded?, record] at grown
    rw [grown, tidy.record?_of_tagged? made record]
    exact ⟨Nat.le_refl _, Nat.lt_succ_self _⟩
  · rintro ⟨new, inside⟩
    rw [grown] at inside
    cases made : state.tagged? step with
    | none =>
      rw [made] at inside
      exact absurd inside (Nat.not_lt.2 new)
    | some handle =>
      cases record : handle.context.record? with
      | none =>
        rw [made, Option.bind_some, Context.recorded?, record] at inside
        exact absurd inside (Nat.not_lt.2 new)
      | some place =>
        rw [made, Option.bind_some, Context.recorded?, record] at inside
        rw [tidy.record?_of_tagged? made record,
          ← Nat.le_antisymm (Nat.le_of_lt_succ inside) new] at record
        exact ⟨handle, rfl, record⟩

/-- Each sampled call has a span of its own. -/
theorem Tidy.nodup_tagged (tidy : state.Tidy) (plain : ∀ step ∈ script, step.isPlain = true) :
    ((state.tagged script).filterMap (·.span?)).Nodup := by
  induction script generalizing state with
  | nil => exact .nil
  | cons step rest ih =>
    obtain ⟨first, later⟩ := List.forall_mem_cons.1 plain
    have still := (tidy.step first).1
    rw [tagged, List.filterMap_append]
    refine List.nodup_append.2 ⟨?_, ih still later, ?_⟩
    · cases state.tagged? step with
      | none => exact .nil
      | some handle =>
        show (List.filterMap _ [_]).Nodup
        rw [List.filterMap_cons]
        split
        · exact .nil
        · exact List.pairwise_singleton _ _
    · -- A later call has a later record.
      rintro index own _ again rfl
      obtain ⟨call, present, record⟩ := List.mem_filterMap.1 own
      obtain ⟨handle, made, rfl⟩ := Option.map_eq_some_iff.1 (Option.mem_toList.1 present)
      obtain ⟨other, presentLater, same⟩ := List.mem_filterMap.1 again
      have before := ((tidy.tagged?_iff first).1 ⟨handle, made, record⟩).2
      exact absurd before (Nat.not_lt.2 (still.exportedOnce_of_tagged later presentLater same).1)

/-- What a step closes was open. -/
theorem isOpen_of_mem_closes {step : Step} {entry : Nat × SpanData}
    (present : entry ∈ state.closes step) : (state.world.contentAt? entry.1).isSome = true := by
  have told := mem_closings_iff.1 (List.mem_map_of_mem (f := Prod.fst) present)
  by_cases passes : state.Passes step entry.1
  · rw [closing?_of_passes passes] at told
    cases told
  · rw [← Option.isSome_map, ← identity_closing? passes, Option.isSome_map]
    exact told

/-- A script closes spans that were open before and spans of calls that it tags. -/
theorem Tidy.origin_of_closed (tidy : state.Tidy) (plain : ∀ step ∈ script, step.isPlain = true)
    {entry : Nat × SpanData} (present : entry ∈ state.closed script) :
    (state.world.contentAt? entry.1).isSome = true ∨
      ∃ call ∈ state.tagged script, call.span? = some entry.1 := by
  induction script generalizing state with
  | nil => exact absurd present List.not_mem_nil
  | cons step rest ih =>
    obtain ⟨plainFirst, plainLater⟩ := List.forall_mem_cons.1 plain
    obtain ⟨still, moves⟩ := tidy.step plainFirst
    rcases List.mem_append.1 present with first | later
    · exact .inl (isOpen_of_mem_closes first)
    · rcases ih still plainLater later with
        isOpen | ⟨call, tagged, record⟩
      · rcases Nat.lt_or_ge entry.1 state.world.spans.length with old | new
        · have content := congrArg Option.isSome (moves.content entry.1 old)
          rw [Option.isSome_map, isOpen] at content
          split at content
          · cases content
          · rw [Option.isSome_map] at content
            exact .inl content.symm
        · -- The span was started by this step.
          obtain ⟨handle, made, record⟩ :=
            (tidy.tagged?_iff plainFirst).2 ⟨new, lt_of_isOpen isOpen⟩
          refine .inr ⟨⟨state.traces step, handle⟩, List.mem_append_left _ ?_, record⟩
          rw [made]
          exact List.mem_singleton_self _
      · exact .inr ⟨call, List.mem_append_right _ tagged, record⟩

/-! ## What a script exports -/

theorem exports_congr {other : State} {closed : List (Nat × SpanData)}
    (same : ∀ entry ∈ closed, other.world.providerAt? entry.1 = state.world.providerAt? entry.1) :
    other.exports closed = state.exports closed := by
  unfold exports
  rw [List.flatMap_def, List.flatMap_def, List.map_congr_left fun entry present => ?_]
  exact congrArg (ExportedSpan.ofProvider · [entry.2]) (same entry present)

theorem Tidy.providerAt?_run (tidy : state.Tidy) (plain : ∀ step ∈ script, step.isPlain = true)
    (inside : index < state.world.spans.length) :
    (state.run script).world.providerAt? index = state.world.providerAt? index := by
  induction script generalizing state with
  | nil => rfl
  | cons step rest ih =>
    obtain ⟨first, later⟩ := List.forall_mem_cons.1 plain
    obtain ⟨still, moves⟩ := tidy.step first
    exact (ih still later (moves.lt_of_lt inside)).trans (moves.provider index inside)

theorem Tidy.exported_run (tidy : state.Tidy) (plain : ∀ step ∈ script, step.isPlain = true) :
    (state.run script).world.exported =
      state.world.exported ++ (state.run script).exports (state.closed script) := by
  induction script generalizing state with
  | nil => exact (List.append_nil _).symm
  | cons step rest ih =>
    obtain ⟨plainFirst, later⟩ := List.forall_mem_cons.1 plain
    obtain ⟨still, moves⟩ := tidy.step plainFirst
    have first : (state.run (step :: rest)).exports (state.closes step) =
        state.exports (state.closes step) :=
      exports_congr fun entry present =>
        tidy.providerAt?_run plain (lt_of_isOpen (isOpen_of_mem_closes present))
    calc (state.run (step :: rest)).world.exported
        = (state.step step).1.world.exported ++ (state.run (step :: rest)).exports
            ((state.step step).1.closed rest) :=
          ih still later
      _ = state.world.exported ++ ((state.run (step :: rest)).exports (state.closes step) ++
            (state.run (step :: rest)).exports ((state.step step).1.closed rest)) := by
          rw [moves.exported, first, List.append_assoc]
      _ = state.world.exported ++ (state.run (step :: rest)).exports
            (state.closed (step :: rest)) := by
          unfold exports
          rw [← List.flatMap_append]
          rfl

/-- Of each closed span there is one export, with the content that it is closed with. -/
theorem data_exports {closed : List (Nat × SpanData)}
    (inside : ∀ entry ∈ closed, entry.1 < state.world.spans.length) :
    (state.exports closed).map (·.data) = closed.map (·.2) := by
  induction closed with
  | nil => rfl
  | cons entry rest ih =>
    obtain ⟨within, later⟩ := List.forall_mem_cons.1 inside
    have provider : state.world.providerAt? entry.1 =
        some state.world.spans[entry.1].provider := by
      rw [World.providerAt?, List.getElem?_eq_getElem within]
      rfl
    have first : state.exports (entry :: rest) =
        ⟨state.world.spans[entry.1].provider, entry.2⟩ :: state.exports rest := by
      show ExportedSpan.ofProvider (state.world.providerAt? entry.1) [entry.2] ++ _ = _
      rw [provider]
      rfl
    rw [first, List.map_cons, ih later]
    rfl

theorem Tidy.length_le_run (tidy : state.Tidy) (plain : ∀ step ∈ script, step.isPlain = true) :
    state.world.spans.length ≤ (state.run script).world.spans.length := by
  induction script generalizing state with
  | nil => exact Nat.le_refl _
  | cons step rest ih =>
    obtain ⟨first, later⟩ := List.forall_mem_cons.1 plain
    obtain ⟨still, moves⟩ := tidy.step first
    have grown := ih still later
    rw [moves.grown] at grown
    exact Nat.le_of_add_right_le grown

theorem Tidy.lt_of_mem_closed (tidy : state.Tidy) (plain : ∀ step ∈ script, step.isPlain = true)
    {entry : Nat × SpanData} (present : entry ∈ state.closed script) :
    entry.1 < (state.run script).world.spans.length := by
  induction script generalizing state with
  | nil => exact absurd present List.not_mem_nil
  | cons step rest ih =>
    rcases List.mem_append.1 present with first | later
    · exact Nat.lt_of_lt_of_le (lt_of_isOpen (isOpen_of_mem_closes first))
        (tidy.length_le_run plain)
    · obtain ⟨plainFirst, plainLater⟩ := List.forall_mem_cons.1 plain
      exact ih (tidy.step plainFirst).1 plainLater later

/-! ## The end of a session -/

theorem releaseAll_eq_run (count : Nat) :
    state.releaseAll count = state.run (List.replicate count .release) := by
  induction count generalizing state with
  | zero => rfl
  | succ count ih => exact ih

theorem finish_eq_run : state.finish = state.run state.winding := by
  unfold finish winding run
  rw [List.foldl_append, List.foldl_map, releaseAll_eq_run]
  rfl

theorem isPlain_of_mem_winding {step : Step} (present : step ∈ state.winding) :
    step.isPlain = true := by
  rcases List.mem_append.1 present with release | drop
  · rw [(List.mem_replicate.1 release).2]
    rfl
  · obtain ⟨name, -, rfl⟩ := List.mem_map.1 drop
    rfl

theorem letGo_frame (state : State) (context : Context) :
    (state.letGo context).calls = state.calls ∧
      (state.letGo context).world.attached = state.world.attached := by
  rcases state.letGo_cases context with ⟨same, -⟩ | ⟨index, -, -, ended⟩
  · rw [same]
    exact ⟨rfl, rfl⟩
  · rw [ended]
    unfold finished
    rw [World.finishSpan_eq]
    exact ⟨rfl, rfl⟩

theorem release_frame (state : State) :
    state.release.1.calls = state.calls ∧
      state.release.1.world.attached = state.world.attached.tail := by
  unfold release
  cases above : state.world.attached with
  | nil => exact ⟨rfl, above⟩
  | cons context attached => exact letGo_frame _ context

theorem releaseAll_frame (state : State) (count : Nat) :
    (state.releaseAll count).calls = state.calls ∧
      (state.releaseAll count).world.attached = state.world.attached.drop count := by
  induction count generalizing state with
  | zero => exact ⟨rfl, rfl⟩
  | succ count ih =>
    obtain ⟨calls, attached⟩ := state.release_frame
    obtain ⟨laterCalls, laterAttached⟩ := ih state.release.1
    refine ⟨laterCalls.trans calls, laterAttached.trans ?_⟩
    rw [attached, List.drop_tail]

theorem drop_frame (state : State) (name other : String) :
    (state.drop name).1.calls.get? other =
        (if other = name then none else state.calls.get? other) ∧
      (state.drop name).1.world.attached = state.world.attached := by
  unfold State.drop
  cases found : state.calls.get? name with
  | none =>
    refine ⟨?_, rfl⟩
    show state.calls.get? other = _
    by_cases same : other = name
    · rw [if_pos same, same, found]
    · rw [if_neg same]
  | some call =>
    obtain ⟨calls, attached⟩ :=
      letGo_frame { state with calls := state.calls.erase name } call.handle.context
    refine ⟨?_, attached⟩
    exact (congrArg (·.get? other) calls).trans (Keyed.get?_erase state.calls name other)

theorem dropAll_frame (state : State) (names : List String) :
    let after := names.foldl (fun state name => (state.drop name).1) state
    (∀ other, other ∈ names ∨ state.calls.get? other = none → after.calls.get? other = none) ∧
      after.world.attached = state.world.attached := by
  induction names generalizing state with
  | nil => exact ⟨fun other missing => missing.resolve_left List.not_mem_nil, rfl⟩
  | cons name rest ih =>
    obtain ⟨calls, attached⟩ := ih (state.drop name).1
    refine ⟨fun other missing => calls other ?_, attached.trans (state.drop_frame name name).2⟩
    rw [(state.drop_frame name other).1]
    by_cases same : other = name
    · exact .inr (if_pos same)
    · rw [if_neg same]
      exact missing.imp_left fun present => (List.mem_cons.1 present).resolve_left same

/-- At the end of a session nothing is held. -/
theorem holds_finish (index : Nat) : state.finish.holds index = false := by
  let released := state.releaseAll state.world.attached.length
  obtain ⟨calls, attached⟩ := state.releaseAll_frame state.world.attached.length
  obtain ⟨gone, same⟩ := released.dropAll_frame state.calls.keys
  refine Bool.eq_false_iff.2 fun here => ?_
  obtain ⟨context, present, -⟩ := (holds_iff index).1 here
  rcases mem_held_iff.1 present with ⟨name, call, found, -⟩ | above
  · -- All names were dropped.
    have missing : name ∈ state.calls.keys ∨ released.calls.get? name = none := by
      rw [show released.calls = _ from calls]
      cases there : state.calls.get? name with
      | none => exact .inr rfl
      | some former =>
        exact .inl (List.mem_map.2 ⟨_, (state.calls.get?_eq_some_iff name former).1 there, rfl⟩)
    exact absurd (found.symm.trans (gone name missing)) nofun
  · rw [show state.finish.world.attached = _ from same.trans attached, List.drop_length] at above
    exact absurd above List.not_mem_nil

theorem tagged_append (first second : List Step) :
    state.tagged (first ++ second) = state.tagged first ++ (state.run first).tagged second := by
  induction first generalizing state with
  | nil => rfl
  | cons step rest ih =>
    rw [List.cons_append, tagged, ih, ← List.append_assoc]
    rfl

theorem run_append (first second : List Step) :
    state.run (first ++ second) = (state.run first).run second := List.foldl_append

/-- What a script exports are the spans that it closes. Each sampled call has a span of its own; it
is exported once, at the first end that comes to it or else when its last holder lets it go, and at
the end of the session at the latest. Nothing else is exported. -/
theorem exported_once (fresh : state.Fresh) (plain : ∀ step ∈ script, step.isPlain = true) :
    let after := state.run script
    let whole := script ++ after.winding
    after.world.exported = state.world.exported ++ after.exports (state.closed script) ∧
      (after.exports (state.closed script)).map (·.data) = (state.closed script).map (·.2) ∧
      ((state.tagged script).filterMap (·.span?)).Nodup ∧
      (∀ call ∈ state.tagged script, call.span?.isSome = call.isSampled ∧
        ∀ index, call.span? = some index →
          state.ExportedOnce script index call.handle.context.identity ∧
          ∃ data, (state.closed whole).filter (·.1 = index) = [(index, data)]) ∧
      (∀ entry ∈ state.closed script, ∃ call ∈ state.tagged script,
        call.isSampled = true ∧ call.span? = some entry.1) ∧
      after.finish = state.run whole := by
  intro after whole
  have tidy := fresh.tidy
  have wound : after.finish = state.run whole := by
    rw [finish_eq_run, run_append]
  have plainWhole : ∀ step ∈ whole, step.isPlain = true := by
    intro step present
    rcases List.mem_append.1 present with first | second
    · exact plain step first
    · exact isPlain_of_mem_winding second
  refine ⟨tidy.exported_run plain, data_exports fun entry => tidy.lt_of_mem_closed plain,
    tidy.nodup_tagged plain, fun call present => ?_, fun entry present => ?_, wound⟩
  · refine ⟨isSome_span?_of_tagged present, fun index record => ?_⟩
    refine ⟨(tidy.exportedOnce_of_tagged plain present record).2, ?_⟩
    have presentWhole : call ∈ state.tagged whole := by
      rw [tagged_append]
      exact List.mem_append_left _ present
    have once := (tidy.exportedOnce_of_tagged plainWhole presentWhole record).2
    have lost : (state.run whole).holds index = false := by
      rw [← wound]
      exact holds_finish index
    obtain ⟨data, fate⟩ := Option.isSome_iff_exists.1 (once.due.2 (.inr lost))
    refine ⟨data, once.once.trans ?_⟩
    rw [fate]
    rfl
  · rcases tidy.origin_of_closed plain present with isOpen | ⟨call, tagged, record⟩
    · obtain ⟨data, there⟩ := Option.isSome_iff_exists.1 isOpen
      obtain ⟨kept, found, content⟩ := Option.bind_eq_some_iff.1 there
      rw [fresh.past kept (List.mem_of_getElem? found)] at content
      cases content
    · refine ⟨call, tagged, ?_, record⟩
      rw [← isSome_span?_of_tagged tagged, record]
      rfl

/-! ## A sample session -/

namespace Sample

/-- A session in a process of its own, where all spans are recorded. -/
def session : State := .initial ⟨.always, .standard, false, false, false⟩ .empty none

/-- The end of a call that went well or failed. -/
def ended (failure : Option Failure) : Event := ⟨false, .ended ⟨.epoch, .epoch, .empty, failure⟩⟩

/-- A call of a method. -/
def call (name : String) : Step :=
  .tag ⟨"server", name, ⟨"/users.Directory/Lookup", true⟩, .fields [], [], none, .empty⟩

/-- Two calls. The first one fails as a detached handle tells, and ends well as its own handle tells
later; the other one is dropped while its context is still attached. -/
def steps : List Step :=
  [.handler "server" ⟨.server, none, .standard, false, false, .global⟩,
    call "first", .clone "first" "copy", .detach "first" "other",
    .event "other" none (ended (some (.plain "disk on fire"))) 1,
    .event "first" none (ended none) 1, call "second", .attach "second", .drop "second", .release]

end Sample

theorem exported_once_in_sample_session :
    (∀ step ∈ Sample.steps, step.isPlain = true) ∧ Sample.session.Fresh ∧
      (Sample.session.closed Sample.steps).map (fun (index, data) => (index, data.status)) =
        [(0, .error "disk on fire"), (1, .unset)] ∧
      (Sample.session.run Sample.steps).world.exported.map (·.data) =
        (Sample.session.closed Sample.steps).map (·.2) := by
  have plain : ∀ step ∈ Sample.steps, step.isPlain = true := by decide
  have fresh : Sample.session.Fresh := fresh_initial _ none nofun nofun rfl
  obtain ⟨exported, contents, -⟩ := exported_once fresh plain
  refine ⟨plain, fresh, by decide +kernel, ?_⟩
  rw [exported, List.map_append, contents]
  rfl

end State

end RpcTelemetry.Session
