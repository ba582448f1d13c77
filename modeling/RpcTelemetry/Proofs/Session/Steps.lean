import RpcTelemetry.Proofs.Session.Ownership

/-!
# Steps of a tidy session

Every step of a session is one of three kinds. It delivers events through a handle, it changes who
holds which span, or it leaves the spans alone.

Main statement: `State.Tidy.step`. A step of a tidy session closes what `State.closes` says, each
span with its content at that moment, and keeps the session tidy.
-/

namespace RpcTelemetry.Session.State

variable {state after : State} {handle : Handle}

/-! ## The steps that change holders -/

section

variable {world : World} {name : String} {call : NamedCall} {started : Option SpanContext}

theorem exists_of_mem_handles {handle : Handle} (present : handle ∈ state.handles) :
    ∃ name call, state.calls.get? name = some call ∧ call.handle = handle := by
  obtain ⟨⟨name, call⟩, inside, rfl⟩ := List.mem_map.1 present
  exact ⟨name, call, (state.calls.get?_eq_some_iff name call).2 inside, rfl⟩

theorem mem_held_iff {context : Context} :
    context ∈ state.held ↔
      (∃ name call, state.calls.get? name = some call ∧ call.handle.context = context) ∨
        context ∈ state.world.attached := by
  rw [held_eq, List.mem_append, List.mem_map]
  refine or_congr_left ⟨?_, ?_⟩
  · rintro ⟨handle, present, rfl⟩
    obtain ⟨name, call, found, rfl⟩ := exists_of_mem_handles present
    exact ⟨name, call, found, rfl⟩
  · rintro ⟨name, call, found, rfl⟩
    exact ⟨call.handle, mem_handles found, rfl⟩

/-- The context that a name stands for; none if it stands for nothing. -/
def contextOf (state : State) (name : String) : Context :=
  (state.calls.get? name).elim .empty (·.handle.context)

theorem store_eq (state : State) (name : String) (call : NamedCall) :
    state.store name call =
      { state with calls := state.calls.insert name call }.letGo (state.contextOf name) := by
  unfold store contextOf
  cases state.calls.get? name <;> rfl

theorem owned_contextOf (state : State) (name : String) :
    state.contextOf name ∈ state.held ∨ (state.contextOf name).record? = none := by
  unfold contextOf
  cases found : state.calls.get? name with
  | none => exact .inr rfl
  | some call => exact .inl (mem_held_of_mem_handles (mem_handles found))

theorem none_added (spans : List KeptSpan) :
    ∃ new, spans = spans ++ new ∧ (∀ kept ∈ new, kept.Sound) ∧
      new.map (·.span.data.map (·.context)) = (none : Option SpanContext).toList.map some :=
  ⟨[], (List.append_nil spans).symm, fun _ inside => absurd inside List.not_mem_nil, rfl⟩

theorem no_cells_added (cells : List Cell) :
    ∃ new, cells = cells ++ new ∧ ∀ cell ∈ new, cell = .fresh :=
  ⟨[], (List.append_nil cells).symm, fun _ inside => absurd inside List.not_mem_nil⟩

/-- A call is stored under a name, be it a new one or one that is known. -/
theorem rearranged_store (attached : world.attached = state.world.attached)
    (exporting : ∀ provider ∈ world.providers, provider.exporting = true)
    (exported : world.exported = state.world.exported)
    (spans : ∃ new, world.spans = state.world.spans ++ new ∧ (∀ kept ∈ new, kept.Sound) ∧
      new.map (·.span.data.map (·.context)) = started.toList.map some)
    (cells : ∃ new, world.cells = state.world.cells ++ new ∧ ∀ cell ∈ new, cell = .fresh)
    (stored : (∃ former ∈ state.handles, former.cell = call.handle.cell ∧
        former.context = call.handle.context) ∨
      (state.world.cells.length ≤ call.handle.cell ∧ call.handle.cell < world.cells.length))
    (origin : ∀ index, call.handle.context.record? = some index →
      state.holds index = true ∨
        (state.world.spans.length ≤ index ∧ index < world.spans.length))
    (taken : ∀ index, state.world.spans.length ≤ index → index < world.spans.length →
      call.handle.context.record? = some index) :
    state.Rearranged { state with world, calls := state.calls.insert name call }
      call.handle.context (state.contextOf name) started := by
  let mid : State := { state with world, calls := state.calls.insert name call }
  have get? (other : String) :
      mid.calls.get? other = if other = name then some call else state.calls.get? other :=
    Keyed.get?_insert state.calls name other call
  have own : call.handle ∈ mid.handles := mem_handles ((get? name).trans (if_pos rfl))
  refine ⟨exporting, exported, spans, cells, ?handles, ?held, origin, ?taken, ?released,
    owned_contextOf state name⟩
  case handles =>
    intro handle present
    obtain ⟨other, found, there, rfl⟩ := exists_of_mem_handles present
    rw [show state.calls.insert name call = mid.calls from rfl, get?] at there
    split at there
    · obtain rfl := Option.some.inj there
      exact stored.imp_right fun new => ⟨new.1, new.2, rfl⟩
    · exact .inl ⟨found.handle, mem_handles there, rfl, rfl⟩
  case held =>
    intro context present
    rcases mem_held_iff.1 present with ⟨other, found, there, rfl⟩ | above
    · rw [show state.calls.insert name call = mid.calls from rfl, get?] at there
      split at there
      · obtain rfl := Option.some.inj there
        exact .inr rfl
      · exact .inl (mem_held_iff.2 (.inl ⟨other, found, there, rfl⟩))
    · rw [attached] at above
      exact .inl (mem_held_iff.2 (.inr above))
  case taken =>
    intro index new inside
    exact (holds_iff index).2 ⟨_, mem_held_of_mem_handles own, taken index new inside⟩
  case released =>
    intro context present
    rcases mem_held_iff.1 present with ⟨other, found, there, rfl⟩ | above
    · by_cases same : other = name
      · refine .inr ?_
        rw [contextOf, ← same, there]
        rfl
      · exact .inl (mem_held_iff.2 (.inl ⟨other, found, (get? other).trans
          ((if_neg same).trans there), rfl⟩))
    · refine .inl (mem_held_iff.2 (.inr ?_))
      rwa [attached]

end

/-! ## Steps -/

/-- A step to another state keeps a session tidy and closes what `State.closings` tells. -/
def Advances (state after : State) (ending : Option (Nat × Outcome))
    (started : Option SpanContext) : Prop :=
  after.Tidy ∧ state.Moves after (state.closings ending after) started

theorem Quiet.advances (quiet : state.Quiet after) (tidy : state.Tidy) :
    state.Advances after none none :=
  ⟨quiet.tidy tidy, quiet.moves⟩

theorem Rearranged.advances {mid : State} {added gone : Context} {started : Option SpanContext}
    (moved : state.Rearranged mid added gone started) (tidy : state.Tidy) :
    state.Advances (mid.letGo gone) none started :=
  ⟨moved.tidy_letGo tidy, moved.moves_letGo tidy⟩

/-- Steps to the same holders and spans may follow. -/
theorem Advances.quiet {last : State} {ending : Option (Nat × Outcome)}
    {started : Option SpanContext} (advances : state.Advances after ending started)
    (quiet : after.Quiet last) : state.Advances last ending started := by
  obtain ⟨tidy, moves⟩ := advances
  have closings : state.closings ending last = state.closings ending after := by
    unfold State.closings closing?
    simp only [quiet.holds]
  refine ⟨quiet.tidy tidy, ?_⟩
  rw [closings]
  constructor
  case exported => exact quiet.exported.trans moves.exported
  case grown =>
    rw [quiet.spans]
    exact moves.grown
  case provider =>
    unfold World.providerAt?
    rw [quiet.spans]
    exact moves.provider
  case content =>
    unfold World.contentAt?
    rw [quiet.spans]
    exact moves.content
  case fresh =>
    unfold World.contentAt?
    rw [quiet.spans]
    exact moves.fresh
  case holders =>
    intro index inside here
    rw [quiet.holds] at here
    exact moves.holders index inside here

/-- A step that fails changes nothing. -/
theorem Tidy.advances_orFail (tidy : state.Tidy) {result : Except StepError (State × Answer)}
    (advances : ∀ after answer, result = .ok (after, answer) → state.Advances after none none) :
    state.Advances (state.orFail result).1 none none := by
  cases result with
  | error error => exact (Quiet.refl state).advances tidy
  | ok pair => exact advances pair.1 pair.2 rfl

theorem exists_of_bind_eq_ok {First Second : Type} {first : Except StepError First}
    {next : First → Except StepError Second} {result : Second}
    (ran : (first >>= next) = .ok result) :
    ∃ value, first = .ok value ∧ next value = .ok result := by
  cases first with
  | error error => cases ran
  | ok value => exact ⟨value, rfl, ran⟩

theorem get?_of_call?_eq_ok {name : String} {call : NamedCall}
    (found : state.call? name = .ok call) : state.calls.get? name = some call := by
  unfold call? at found
  split at found
  · next there => rw [there, Except.ok.inj found]
  · cases found

/-! ## Steps that deliver events -/

/-- Events without an end close nothing, whatever becomes of the log. -/
theorem Tidy.advances_early (tidy : state.Tidy) (present : handle ∈ state.handles)
    (handler : Handler) {events : List Event} (early : ∀ event ∈ events, event.isEnd = false) :
    state.Advances (state.committed handler handle
      ((handler.call handle).run events (state.world.progressOf handle))) none none := by
  obtain ⟨still, moves⟩ := tidy.early present handler early
  refine ⟨still, ?_⟩
  rwa [closings_eq_nil fun index here => ?_]
  rwa [holds_committed]

/-- Events through a handle without a record close nothing. -/
theorem Tidy.advances_unrecorded (tidy : state.Tidy) (present : handle ∈ state.handles)
    (handler : Handler) (events : List Event) (unrecorded : handle.context.record? = none) :
    state.Advances (state.committed handler handle
      ((handler.call handle).run events (state.world.progressOf handle))) none none := by
  have past : (state.world.progressOf handle).span.data = none := by
    show (state.world.spanOf handle.context).data = none
    rw [World.data_spanOf, unrecorded]
    rfl
  have gone : ((handler.call handle).run events (state.world.progressOf handle)).1.span.data =
      none := by
    rw [Call.span_run_of_over past]
    exact past
  refine ⟨tidy.committed present handler (.inr gone) fun _ => gone, ?_⟩
  rw [closings_eq_nil fun index here => ?_]
  · refine tidy.moves_committed present handler ?_ nofun fun index here => ?_
    · rw [Call.spans_run_of_over _ past]
      cases state.world.starterOf handle.context <;> rfl
    · rw [unrecorded] at here
      cases here
  · rwa [holds_committed]

/-- An event comes to nothing, or it is delivered at least once. -/
theorem event_cases (state : State) (name : String) (handler : Option String) (event : Event)
    (times : Nat) :
    ((state.orFail (state.event name handler event times)).1 = state ∧
        state.endOf? (.event name handler event times) = none) ∨
      ∃ (call : NamedCall) (named : NamedHandler) (more : Nat), times = more + 1 ∧
        state.calls.get? name = some call ∧
        (state.orFail (state.event name handler event times)).1 = { state with
          world := state.world.deliverTimes named.handler call.handle event times } ∧
        state.endOf? (.event name handler event times) =
          event.completion?.bind fun completion => call.handle.context.record?.map
            (·, named.handler.role.outcome completion.failure) := by
  have silent (nothing : state.calls.get? name = none ∨ times = 0) :
      state.endOf? (.event name handler event times) = none := by
    rcases nothing with missing | rfl <;> simp [endOf?, *]
  cases found : state.calls.get? name with
  | none =>
    refine .inl ⟨?_, silent (.inl found)⟩
    simp [State.event, call?, found, orFail, bind, Except.bind]
  | some call =>
    cases times with
    | zero =>
      refine .inl ⟨?_, silent (.inr rfl)⟩
      simp [State.event, call?, found, orFail, bind, Except.bind, pure, Except.pure]
    | succ more =>
      cases served : state.handlers.get? (handler.getD call.handler) with
      | none =>
        refine .inl ⟨?_, ?_⟩
        · simp [State.event, call?, handler?, found, served, orFail, bind, Except.bind]
        · simp [endOf?, found, served]
      | some named =>
        refine .inr ⟨call, named, more, rfl, rfl, ?_, ?_⟩
        · simp [State.event, call?, handler?, found, served, orFail, bind, Except.bind, pure,
            Except.pure]
        · cases ending : event.completion? <;> cases record : call.handle.context.record? <;>
            simp [endOf?, found, served, record, ending]

theorem Tidy.advances_event (tidy : state.Tidy) (name : String) (handler : Option String)
    (event : Event) (times : Nat) :
    state.Advances (state.orFail (state.event name handler event times)).1
      (state.endOf? (.event name handler event times)) none := by
  rcases state.event_cases name handler event times with
    ⟨unchanged, silent⟩ | ⟨call, named, more, rfl, found, delivered, told⟩
  · rw [unchanged, silent]
    exact (Quiet.refl state).advances tidy
  · have present := mem_handles found
    rw [delivered, told, World.deliverTimes_eq_deliverAll, ← List.map_replicate,
      state.world.deliverAll_map_eq_commit named.handler (tidy.known _ present)]
    cases ending : event.completion? with
    | none =>
      refine tidy.advances_early present named.handler fun other inside => ?_
      rw [(List.mem_replicate.1 inside).2]
      exact Event.completion?_eq_none_iff.1 ending
    | some completion =>
      cases record : call.handle.context.record? with
      | some target => exact tidy.closing present named.handler ending more record
      | none => exact tidy.advances_unrecorded present named.handler _ record

/-- Messages from several threads close nothing. -/
theorem Tidy.advances_concurrent (tidy : state.Tidy) (name : String)
    (inbound outbound threads : Nat) :
    state.Advances (state.orFail (state.concurrent name inbound outbound threads)).1 none none := by
  refine tidy.advances_orFail fun after answer ran => ?_
  obtain ⟨call, found, ran⟩ := exists_of_bind_eq_ok ran
  obtain ⟨named, served, ran⟩ := exists_of_bind_eq_ok ran
  obtain ⟨rfl, -⟩ := Prod.mk.inj (Except.ok.inj ran)
  have present := mem_handles (get?_of_call?_eq_ok found)
  have known := tidy.known _ present
  let messages := List.replicate (inbound * threads) (plainMessage .inbound 64) ++
    List.replicate (outbound * threads) (plainMessage .outbound 32)
  have early : ∀ event ∈ messages, event.isEnd = false := by
    intro event inside
    rcases List.mem_append.1 inside with first | second
    · rw [(List.mem_replicate.1 first).2]
      rfl
    · rw [(List.mem_replicate.1 second).2]
      rfl
  have delivered : (state.world.deliverTimes named.handler call.handle (plainMessage .inbound 64)
        (inbound * threads)).deliverTimes named.handler call.handle (plainMessage .outbound 32)
        (outbound * threads) =
      state.world.deliverAll named.handler (messages.map (⟨call.handle, ·⟩)) := by
    rw [World.deliverTimes_eq_deliverAll, World.deliverTimes_eq_deliverAll,
      ← World.deliverAll_append, List.map_append, List.map_replicate, List.map_replicate]
  rw [delivered, state.world.deliverAll_map_eq_commit named.handler known]
  exact (tidy.advances_early present named.handler early).quiet ⟨rfl, rfl, rfl, rfl, rfl, rfl⟩

/-! ## Steps that change holders -/

/-- The span of a call that is tagged in a tidy session has the last record of all, or none. -/
theorem Tidy.spans_tag (tidy : state.Tidy) (handler : Handler) (parent : Context)
    (rpc : CallContext) (info : CallInfo) :
    let tagged := state.world.tag handler parent rpc info
    (∃ kept, tagged.1.spans = state.world.spans ++ [kept] ∧ kept.Sound ∧
        kept.span.data.map (·.context) = some tagged.2.context.identity ∧
        tagged.2.context.record? = some state.world.spans.length) ∨
      (tagged.1.spans = state.world.spans ∧ tagged.2.context.record? = none) := by
  intro tagged
  have spans := state.world.spans_tag handler parent rpc info
  have context : tagged.2.context = (state.world.startCallSpan handler parent rpc info).2 :=
    state.world.context_tag handler parent rpc info
  rw [context]
  rcases state.world.startCallSpan_cases handler parent rpc info with
    ⟨tracer, provider, -, found, sampled, last, added⟩ | ⟨none, same⟩
  · refine .inl ⟨_, spans.trans added, ⟨?_, ?_, ?_⟩, rfl, last⟩
    · intro data there
      obtain rfl := Option.some.inj there
      exact ⟨rfl, fun item inside => Method.key_ne_statusCode (List.mem_of_mem_take inside)⟩
    · exact fun _ _ => tidy.exporting provider (List.mem_of_getElem? found)
    · intro data there
      obtain rfl := Option.some.inj there
      exact sampled
  · exact .inr ⟨spans.trans same, none⟩

/-- What a tag comes to, if it does not fail: the call is tagged and stored. -/
theorem exists_of_tag_eq_ok {spec : TagSpec} {answer : Answer}
    (ran : state.tag spec = .ok (after, answer)) :
    ∃ parent rpc named, state.handlers.get? spec.handler = some named ∧
      let tagged := state.world.tag named.handler parent rpc spec.info
      { state with world := tagged.1 }.store spec.call ⟨spec.handler, tagged.2⟩ = after ∧
        some tagged.2 = answer.tagged? := by
  obtain ⟨⟨incoming, incomingErrors⟩, -, ran⟩ := exists_of_bind_eq_ok ran
  obtain ⟨parent, -, ran⟩ := exists_of_bind_eq_ok ran
  obtain ⟨named, served, ran⟩ := exists_of_bind_eq_ok ran
  let rpc : CallContext := ⟨incoming, (Metadata.empty.insertAll spec.outgoing).1, spec.peer⟩
  refine ⟨parent, rpc, named, ?_, congrArg Prod.fst (Except.ok.inj ran),
    congrArg (·.2.tagged?) (Except.ok.inj ran)⟩
  unfold handler? at served
  split at served
  · next found => rw [found, Except.ok.inj served]
  · cases served

theorem Tidy.advances_of_tag (tidy : state.Tidy) {spec : TagSpec} {answer : Answer}
    (ran : state.tag spec = .ok (after, answer)) :
    state.Advances after none (answer.tagged?.bind (·.context.recorded?)) := by
  obtain ⟨parent, rpc, named, -, stored, told⟩ := exists_of_tag_eq_ok ran
  let tagged := state.world.tag named.handler parent rpc spec.info
  rw [← stored, ← told, store_eq]
  have exporting := state.world.exporting_tag named.handler parent rpc spec.info tidy.exporting
  obtain ⟨-, exported⟩ := state.world.outputs_tag named.handler parent rpc spec.info
  obtain ⟨providers, spans, logs, frame⟩ :=
    state.world.tag_frame named.handler parent rpc spec.info
  have cell := state.world.cell_tag named.handler parent rpc spec.info
  have cells : tagged.1.cells = state.world.cells ++ [.fresh] := congrArg World.cells frame
  have attached : tagged.1.attached = state.world.attached := by
    rw [show tagged.1 = _ from frame]
  refine Rearranged.advances (rearranged_store attached exporting exported
    ?spans ⟨[.fresh], cells, fun _ inside => List.mem_singleton.1 inside⟩
    (.inr ⟨Nat.le_of_eq cell.symm, state.world.knows_tag named.handler parent rpc spec.info⟩)
    ?origin ?taken) tidy
  -- What is left are the three facts on the record of the new span.
  all_goals
    rcases tidy.spans_tag named.handler parent rpc spec.info with
      ⟨kept, spans, sound, identity, last⟩ | ⟨spans, unrecorded⟩
  case spans.inl =>
    refine ⟨[kept], spans, List.forall_mem_singleton.2 sound, ?_⟩
    show _ = (tagged.2.context.recorded?).toList.map some
    rw [Context.recorded?, show tagged.2.context.record? = _ from last]
    exact congrArg (List.cons · []) identity
  case spans.inr =>
    show ∃ new, _ ∧ _ ∧ _ = (tagged.2.context.recorded?).toList.map some
    rw [Context.recorded?, show tagged.2.context.record? = _ from unrecorded,
      show tagged.1.spans = _ from spans]
    exact none_added _
  case origin.inl =>
    intro index here
    obtain rfl := Option.some.inj (last.symm.trans here)
    refine .inr ⟨Nat.le_refl _, ?_⟩
    rw [spans, List.length_append]
    exact Nat.lt_succ_self _
  case origin.inr =>
    intro index here
    exact absurd (unrecorded.symm.trans here) nofun
  case taken.inl =>
    intro index old new
    rw [spans, List.length_append, List.length_singleton] at new
    rw [Nat.le_antisymm (Nat.le_of_lt_succ new) old]
    exact last
  case taken.inr =>
    intro index old new
    rw [spans] at new
    exact absurd new (Nat.not_lt.2 old)

theorem Tidy.advances_tag (tidy : state.Tidy) (spec : TagSpec) :
    state.Advances (state.orFail (state.tag spec)).1 none
      ((state.tagged? (.tag spec)).bind (·.context.recorded?)) := by
  show state.Advances _ none ((state.orFail (state.tag spec)).2.tagged?.bind _)
  cases ran : state.tag spec with
  | error error => exact (Quiet.refl state).advances tidy
  | ok pair => exact tidy.advances_of_tag ran

/-- The handle of a tagged call is one that `World.tag` has made. -/
theorem exists_of_tagged? {step : Step} {handle : Handle}
    (tagged : state.tagged? step = some handle) :
    ∃ spec parent rpc named, step = .tag spec ∧ state.handlers.get? spec.handler = some named ∧
      handle = (state.world.tag named.handler parent rpc spec.info).2 := by
  cases step with
  | tag spec =>
    cases ran : state.tag spec with
    | error error =>
      rw [tagged?, ran] at tagged
      cases tagged
    | ok pair =>
      obtain ⟨parent, rpc, named, served, -, told⟩ := exists_of_tag_eq_ok ran
      rw [tagged?, ran] at tagged
      exact ⟨spec, parent, rpc, named, rfl, served, Option.some.inj (tagged.symm.trans told.symm)⟩
  | _ => cases tagged

/-- The span of a tagged call is recorded if the handler has a tracer and the span is sampled. -/
theorem isSome_record?_of_tagged? {step : Step} {handle : Handle}
    (tagged : state.tagged? step = some handle) :
    handle.context.record?.isSome =
      (state.traces step && handle.context.identity.isSampled) := by
  obtain ⟨spec, parent, rpc, named, rfl, served, rfl⟩ := exists_of_tagged? tagged
  rw [World.isSome_record?_tag, traces, served]
  rfl

/-- The span of a tagged call has the last record of all. -/
theorem Tidy.record?_of_tagged? (tidy : state.Tidy) {step : Step} {handle : Handle}
    (tagged : state.tagged? step = some handle) {index : Nat}
    (record : handle.context.record? = some index) : index = state.world.spans.length := by
  obtain ⟨spec, parent, rpc, named, -, -, rfl⟩ := exists_of_tagged? tagged
  rcases tidy.spans_tag named.handler parent rpc spec.info with
    ⟨-, -, -, -, last⟩ | ⟨-, unrecorded⟩
  · exact Option.some.inj (record.symm.trans last)
  · exact absurd (record.symm.trans unrecorded) nofun

theorem Tidy.advances_clone (tidy : state.Tidy) (name other : String) :
    state.Advances (state.orFail (state.clone name other)).1 none none := by
  refine tidy.advances_orFail fun after answer ran => ?_
  obtain ⟨call, found, ran⟩ := exists_of_bind_eq_ok ran
  obtain ⟨rfl, -⟩ := Prod.mk.inj (Except.ok.inj ran)
  have present := mem_handles (get?_of_call?_eq_ok found)
  rw [store_eq]
  refine Rearranged.advances (rearranged_store rfl tidy.exporting rfl (none_added _)
    (no_cells_added _) ?_ ?_ ?_) tidy
  · exact .inl ⟨call.handle, present, rfl, rfl⟩
  · exact fun index here => .inl ((holds_iff index).2 ⟨_, mem_held_of_mem_handles present, here⟩)
  · exact fun index old new => absurd new (Nat.not_lt.2 old)

/-- A detached handle holds what its context holds, with a cell of its own. -/
theorem Tidy.advances_addDetached (tidy : state.Tidy) (name handler : String) (rpc : CallContext)
    {context : Context}
    (owned : ∀ index, context.record? = some index → state.holds index = true) :
    state.Advances (state.addDetached name handler rpc context).1 none none := by
  unfold addDetached
  dsimp only
  rw [store_eq]
  refine Rearranged.advances (rearranged_store rfl tidy.exporting rfl (none_added _) ?_ ?_ ?_ ?_)
    tidy
  · exact ⟨[.fresh], rfl, fun _ inside => List.mem_singleton.1 inside⟩
  · exact .inr ⟨Nat.le_refl _, state.world.knows_detach rpc context⟩
  · exact fun index here => .inl (owned index here)
  · exact fun index old new => absurd new (Nat.not_lt.2 old)

/-- The context of a parent is held, if it has a record. -/
theorem holds_of_parent {parent : ParentSpec} {context : Context}
    (found : state.parent parent = .ok context) {index : Nat}
    (here : context.record? = some index) : state.holds index = true := by
  refine (holds_iff index).2 ⟨context, ?_, here⟩
  cases parent with
  | empty =>
    obtain rfl := Except.ok.inj found
    cases here
  | current =>
    obtain rfl := Except.ok.inj found
    refine mem_held_iff.2 (.inr ?_)
    unfold World.current at here ⊢
    cases above : state.world.attached with
    | nil =>
      rw [above] at here
      cases here
    | cons first rest => exact List.mem_cons_self
  | call name =>
    obtain ⟨call, there, found⟩ := exists_of_bind_eq_ok found
    obtain rfl := Except.ok.inj found
    exact mem_held_of_mem_handles (mem_handles (get?_of_call?_eq_ok there))
  | remote trace span flags members =>
    unfold State.parent at found
    dsimp only at found
    split at found
    · obtain rfl := Except.ok.inj found
      cases here
    · cases found

theorem Tidy.advances_detach (tidy : state.Tidy) (name other : String) :
    state.Advances (state.orFail (state.detach name other)).1 none none := by
  refine tidy.advances_orFail fun after answer ran => ?_
  obtain ⟨call, found, ran⟩ := exists_of_bind_eq_ok ran
  obtain rfl := congrArg Prod.fst (Except.ok.inj ran)
  have present := mem_handles (get?_of_call?_eq_ok found)
  exact tidy.advances_addDetached other call.handler call.handle.rpc fun index here =>
    (holds_iff index).2 ⟨_, mem_held_of_mem_handles present, here⟩

theorem Tidy.advances_bare (tidy : state.Tidy) (name handler : String) (parent : ParentSpec)
    (outgoing : List (String × String)) (peer : Option Peer) :
    state.Advances (state.orFail (state.bare name handler parent outgoing peer)).1 none none := by
  refine tidy.advances_orFail fun after answer ran => ?_
  obtain ⟨context, found, ran⟩ := exists_of_bind_eq_ok ran
  obtain rfl := congrArg Prod.fst (Except.ok.inj ran)
  exact tidy.advances_addDetached name handler _ fun index here => holds_of_parent found here

/-- Handles and contexts that change hands without anything new. -/
theorem rearranged_of_holders {mid : State} {added gone : Context}
    (world : ∃ attached, mid.world = { state.world with attached }) (tidy : state.Tidy)
    (handles : ∀ handle ∈ mid.handles, handle ∈ state.handles)
    (held : ∀ context ∈ mid.held, context ∈ state.held ∨ context = added)
    (origin : ∀ index, added.record? = some index → state.holds index = true)
    (released : ∀ context ∈ state.held, context ∈ mid.held ∨ context = gone)
    (owned : gone ∈ state.held ∨ gone.record? = none) : state.Rearranged mid added gone none := by
  obtain ⟨attached, world⟩ := world
  refine ⟨?exporting, ?exported, ?spans, ?cells, ?handles, held, ?origin, ?taken, released, owned⟩
  case exporting =>
    rw [world]
    exact tidy.exporting
  case exported => rw [world]
  case spans =>
    rw [world]
    exact none_added _
  case cells =>
    rw [world]
    exact no_cells_added _
  case handles => exact fun handle present => .inl ⟨handle, handles handle present, rfl, rfl⟩
  case origin => exact fun index here => .inl (origin index here)
  case taken =>
    rw [world]
    exact fun index old new => absurd new (Nat.not_lt.2 old)

theorem Tidy.advances_drop (tidy : state.Tidy) (name : String) :
    state.Advances (state.drop name).1 none none := by
  unfold State.drop
  cases found : state.calls.get? name with
  | none => exact (Quiet.refl state).advances tidy
  | some call =>
    have present := mem_handles found
    let mid : State := { state with calls := state.calls.erase name }
    have get? (other : String) :
        mid.calls.get? other = if other = name then none else state.calls.get? other :=
      Keyed.get?_erase state.calls name other
    have moved : state.Rearranged mid .empty call.handle.context none := by
      refine rearranged_of_holders ⟨_, rfl⟩ tidy ?handles ?held nofun ?released
        (.inl (mem_held_of_mem_handles present))
      case handles =>
        intro handle inside
        obtain ⟨other, found, there, rfl⟩ := exists_of_mem_handles inside
        rw [get?] at there
        split at there
        · cases there
        · exact mem_handles there
      case held =>
        intro context inside
        rcases mem_held_iff.1 inside with ⟨other, found, there, rfl⟩ | above
        · rw [get?] at there
          split at there
          · cases there
          · exact .inl (mem_held_iff.2 (.inl ⟨other, found, there, rfl⟩))
        · exact .inl (mem_held_iff.2 (.inr above))
      case released =>
        intro context inside
        rcases mem_held_iff.1 inside with ⟨other, former, there, rfl⟩ | above
        · by_cases same : other = name
          · rw [same, found] at there
            rw [Option.some.inj there]
            exact .inr rfl
          · exact .inl (mem_held_iff.2 (.inl ⟨other, former, (get? other).trans
              ((if_neg same).trans there), rfl⟩))
        · exact .inl (mem_held_iff.2 (.inr above))
    exact moved.advances tidy

theorem Tidy.advances_attach (tidy : state.Tidy) (name : String) :
    state.Advances (state.orFail (state.attach name)).1 none none := by
  refine tidy.advances_orFail fun after answer ran => ?_
  obtain ⟨call, found, ran⟩ := exists_of_bind_eq_ok ran
  obtain ⟨rfl, -⟩ := Prod.mk.inj (Except.ok.inj ran)
  have present := mem_held_of_mem_handles (mem_handles (get?_of_call?_eq_ok found))
  let mid : State := { state with world := { state.world with
    attached := call.handle.context :: state.world.attached } }
  have moved : state.Rearranged mid call.handle.context .empty none := by
    refine rearranged_of_holders ⟨_, rfl⟩ tidy (fun handle inside => inside) ?held
      (fun index here => (holds_iff index).2 ⟨_, present, here⟩) ?released (.inr rfl)
    case held =>
      intro context inside
      rcases mem_held_iff.1 inside with ours | above
      · exact .inl (mem_held_iff.2 (.inl ours))
      · rcases List.mem_cons.1 above with rfl | above
        · exact .inr rfl
        · exact .inl (mem_held_iff.2 (.inr above))
    case released =>
      intro context inside
      rcases mem_held_iff.1 inside with ours | above
      · exact .inl (mem_held_iff.2 (.inl ours))
      · exact .inl (mem_held_iff.2 (.inr (List.mem_cons_of_mem _ above)))
  exact moved.advances tidy

theorem Tidy.advances_release (tidy : state.Tidy) : state.Advances state.release.1 none none := by
  unfold release
  cases above : state.world.attached with
  | nil => exact (Quiet.refl state).advances tidy
  | cons context attached =>
    let mid : State := { state with world := { state.world with attached } }
    have mem_attached {other : Context} :
        other ∈ state.world.attached ↔ other = context ∨ other ∈ attached := by
      rw [above]
      exact List.mem_cons
    have moved : state.Rearranged mid .empty context none := by
      refine rearranged_of_holders ⟨_, rfl⟩ tidy (fun handle inside => inside) ?held nofun ?released
        (.inl (mem_held_iff.2 (.inr (mem_attached.2 (.inl rfl)))))
      case held =>
        intro other inside
        rcases mem_held_iff.1 inside with ours | still
        · exact .inl (mem_held_iff.2 (.inl ours))
        · exact .inl (mem_held_iff.2 (.inr (mem_attached.2 (.inr still))))
      case released =>
        intro other inside
        rcases mem_held_iff.1 inside with ours | former
        · exact .inl (mem_held_iff.2 (.inl ours))
        · rcases mem_attached.1 former with rfl | still
          · exact .inr rfl
          · exact .inl (mem_held_iff.2 (.inr still))
    exact moved.advances tidy

/-! ## All steps -/

/-- A step of a tidy session closes what `State.closes` says, and keeps the session tidy. -/
theorem Tidy.step (tidy : state.Tidy) {step : Step} (plain : step.isPlain = true) :
    (state.step step).1.Tidy ∧ state.Moves (state.step step).1 (state.closes step)
      ((state.tagged? step).bind (·.context.recorded?)) := by
  have quiet (other : State) (same : state.Quiet other) : state.Advances other none none :=
    same.advances tidy
  show state.Advances (state.step step).1 (state.endOf? step) _
  cases step with
  | handler name spec => exact quiet _ ⟨rfl, rfl, rfl, rfl, rfl, rfl⟩
  | tag spec => exact tidy.advances_tag spec
  | event name handler event times => exact tidy.advances_event name handler event times
  | concurrent name inbound outbound threads =>
    exact tidy.advances_concurrent name inbound outbound threads
  | view name =>
    refine tidy.advances_orFail fun after answer ran => ?_
    obtain ⟨call, -, ran⟩ := exists_of_bind_eq_ok ran
    obtain ⟨rfl, -⟩ := Prod.mk.inj (Except.ok.inj ran)
    exact quiet _ (.refl _)
  | clone name other => exact tidy.advances_clone name other
  | detach name other => exact tidy.advances_detach name other
  | bare name handler parent outgoing peer =>
    exact tidy.advances_bare name handler parent outgoing peer
  | drop name => exact tidy.advances_drop name
  | attach name => exact tidy.advances_attach name
  | release => exact tidy.advances_release
  | connection name remote own =>
    refine tidy.advances_orFail fun after answer ran => ?_
    obtain ⟨named, -, ran⟩ := exists_of_bind_eq_ok ran
    obtain ⟨rfl, -⟩ := Prod.mk.inj (Except.ok.inj ran)
    exact quiet _ (.refl _)
  | measurements instrument attributeKey => exact quiet _ (.refl _)
  | resetMeter => exact quiet _ ⟨rfl, rfl, rfl, rfl, rfl, rfl⟩
  | unknown name => exact quiet _ (.refl _)
  | spanAttribute => cases plain
  | spanStatus => cases plain
  | spanEnd => cases plain
  | childSpan => cases plain
  | resetExporter => cases plain
  | dropProvider => cases plain

end RpcTelemetry.Session.State
