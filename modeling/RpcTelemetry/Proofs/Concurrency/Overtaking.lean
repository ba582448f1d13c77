import RpcTelemetry.Proofs.Concurrency.History

/-!
# Ends that overtake messages

A delivery looks at the end flag once, at its start, and holds no lock from then on. Without the
contract of the transport an end can win the flag while a message is under way. That message is
still counted and measured, and the end does not report it if it counts too late.

Result: `measured_around_end`. For every schedule, one end alone wins the flag, and it alone
measures the call, after that. All else that is measured are the sizes of the messages that found
the call open, and the end misses just those of them that count after it has looked. Where none of
these messages is under way when the end wins, nothing but its own measurements follows, and it
reports every size. `message_overtaken` shows that this condition is needed.
-/

namespace RpcTelemetry

/-! ## What a delivery has done when it returns -/

namespace Act

/-- Whether an act records a value with an instrument. -/
def measures (instrument : String) (act : Act) : Bool :=
  act.measurement?.any (·.instrument = instrument)

/-- Whether an act neither counts nor measures and does not win the end flag. -/
def isSilent : Act → Bool
  | .counted _ _ | .recorded _ | .swappedEnded false => false
  | _ => true

end Act

namespace Instruction

def loads (direction : Direction) : Instruction → Bool
  | .loadCount other => other = direction
  | _ => false

/-- Whether an instruction neither counts nor measures nor touches the end flag. -/
def isSilent : Instruction → Bool
  | .log _ | .addMessage _ _ | .setAttribute _ => true
  | _ => false

end Instruction

namespace Call

variable {call : Call} {identity : List Attribute} {numbers : Direction → UInt64}

/-- An event looks at most once at the counter of a direction. -/
theorem countP_loads_program (recorded : call.tracking = .recorded identity) (event : Event)
    (direction : Direction) :
    (call.program event).countP (Instruction.loads direction) ≤ 1 := by
  by_cases ends : event.isEnd = true
  · rw [Event.isEnd_eq_isSome] at ends
    obtain ⟨completion, ended⟩ := Option.isSome_iff_exists.1 ends
    unfold program endProgram summaryProgram
    rw [recorded, Event.occurrence_of_completion? ended]
    cases direction <;> exact Nat.le_refl 1
  · refine (List.countP_eq_zero.2 fun instruction present loads => ends ?_).trans_le (Nat.zero_le 1)
    refine isEnd_of_isFinal recorded present ?_
    cases instruction <;> first | rfl | cases loads

/-- What is left to do after an act loads no more than what was left before. -/
theorem countP_loads_next {acts : List Act} {progress next : Progress} {instruction : Instruction}
    {act : Act} (performed : call.perform acts progress instruction = (act, next))
    (rest : List Instruction) (direction : Direction) :
    (instruction.next rest act).countP (Instruction.loads direction) ≤
      rest.countP (Instruction.loads direction) := by
  rcases next_of_perform performed rest with onward | ⟨-, entries, off⟩
  · rw [onward]
  · rw [off, List.countP_eq_zero.2 (List.forall_mem_map.2 fun _ _ => Bool.false_ne_true)]
    exact Nat.zero_le _

/-- Steps among those of others, with the numbers that the counters stood at when they were loaded.
A direction that was not loaded can have any number. -/
def LeadsFreely (call : Call) (program : List Instruction) (acts last : List Act) : Prop :=
  ∀ fallback : Direction → UInt64, ∃ numbers,
    (∀ direction, program.countP (Instruction.loads direction) = 0 →
      numbers direction = fallback direction) ∧ call.Leads numbers program acts last

theorem LeadsFreely.step {acts last : List Act} {progress next : Progress}
    {instruction : Instruction} {rest : List Instruction} {act : Act}
    (performed : call.perform acts progress instruction = (act, next))
    (once : ∀ direction, (instruction :: rest).countP (Instruction.loads direction) ≤ 1)
    (further : call.LeadsFreely (instruction.next rest act) (acts ++ [act]) last) :
    call.LeadsFreely (instruction :: rest) acts last := by
  intro fallback
  -- What is loaded now is not loaded again, so it can be asked of what follows.
  obtain ⟨numbers, agrees, leads⟩ := further fun direction =>
    if instruction.loads direction then progress.cell.number direction else fallback direction
  have fewer := countP_loads_next performed rest
  have total (direction : Direction) : (instruction :: rest).countP (Instruction.loads direction) =
      rest.countP (Instruction.loads direction) + if instruction.loads direction then 1 else 0 :=
    List.countP_cons
  refine ⟨numbers, fun direction none => ?_, ?_⟩
  · have sum := total direction
    have still := fewer direction
    rw [agrees direction (by omega)]
    refine if_neg fun loads => ?_
    rw [if_pos loads] at sum
    omega
  · obtain rfl : (call.perform acts progress instruction).1 = act := by rw [performed]
    refine .step (fun direction load => ?_) leads
    have loads : instruction.loads direction = true := load ▸ decide_eq_true rfl
    have sum := total direction
    have still := fewer direction
    have once := once direction
    rw [if_pos loads] at sum
    exact ((agrees direction (by omega)).trans (if_pos loads)).symm

theorem silent_of_perform {acts : List Act} {progress next : Progress}
    {instruction : Instruction} {act : Act}
    (performed : call.perform acts progress instruction = (act, next))
    (silent : instruction.isSilent = true) (rest : List Instruction) :
    act.isSilent = true ∧ instruction.next rest act = rest := by
  cases instruction <;> first | (cases performed; exact ⟨rfl, rfl⟩) | cases silent

theorem Leads.silent {program : List Instruction} {acts last : List Act}
    (leads : call.Leads numbers program acts last)
    (silent : ∀ instruction ∈ program, instruction.isSilent = true) :
    ∃ more, last = acts ++ more ∧ ∀ act ∈ more, act.isSilent = true := by
  induction program generalizing acts with
  | nil => exact ⟨[], leads.nil.trans (List.append_nil _).symm, nofun⟩
  | cons instruction rest ih =>
    obtain ⟨first, after⟩ := List.forall_mem_cons.1 silent
    obtain ⟨progress, act, next, performed, -, leads⟩ := leads.cons
    obtain ⟨quiet, onward⟩ := silent_of_perform performed first rest
    rw [onward] at leads
    obtain ⟨more, rfl, silence⟩ := ih leads after
    exact ⟨act :: more, List.append_assoc _ _ _, List.forall_mem_cons.2 ⟨quiet, silence⟩⟩

/-- What a delivery on a recorded call has done when it returns. -/
inductive Handled (call : Call) (identity : List Attribute) (event : Event) : List Act → Prop
  /-- It has come too late. -/
  | late {entry : Log.Entry} :
      Handled call identity event [.loadedEnded true, .logged entry]
  /-- It has found the call open and left its account alone; an end has lost the flag. -/
  | silent {acts : List Act} :
      event.message? = none → (∀ act ∈ acts, act.isSilent = true) →
      (event.isEnd = true → ∃ act ∈ acts, act.tellsEnd = true) →
      Handled call identity event acts
  /-- It has found the call open, and has counted and measured a message. -/
  | message {direction : Direction} {message : Message} {entry : Log.Entry} {ordinal : UInt64}
      {more : List Act} :
      event.message? = some (direction, message) → (∀ act ∈ more, act.isSilent = true) →
      Handled call identity event (.loadedEnded false :: .logged entry ::
        .counted direction ordinal ::
        .recorded (call.measure direction.sizeSpec (.count message.length) identity) :: more)
  /-- It has won the end flag and then measured the call, with the numbers that it has loaded. -/
  | completed {completion : Completion} {entry : Log.Entry} {more : List Act}
      (numbers : Direction → UInt64) :
      event.occurrence = .ended completion →
      more.filterMap Act.measurement? =
        call.summary completion ⟨true, numbers .inbound, numbers .outbound⟩ →
      (∀ direction, .loadedCount direction (numbers direction) ∈ more) →
      (∀ act ∈ more, ∀ direction, act.counts direction = false ∧
        act.measures (direction.sizeSpec.name call.role.label) = false) →
      Handled call identity event
        (.loadedEnded false :: .logged entry :: .swappedEnded false :: more)

/-- Instruments of one role are told apart by their suffixes. -/
theorem measures_measure (spec other : InstrumentSpec) (value : MeasuredValue)
    (attributes : List Attribute) :
    (Act.recorded (call.measure spec value attributes)).measures (other.name call.role.label) =
      decide (spec.suffix = other.suffix) := by
  show decide (spec.name call.role.label = other.name call.role.label) = _
  exact decide_eq_decide.2 (String.append_right_inj _)

/-- A delivery either comes too late, or has found the call open. -/
theorem Leads.opened {late entry : Log.Entry} {program : List Instruction} {acts : List Act}
    (leads : call.Leads numbers (.loadEnded late :: .log entry :: program) [] acts) :
    acts = [.loadedEnded true, .logged late] ∨
      call.Leads numbers program [.loadedEnded false, .logged entry] acts := by
  obtain ⟨progress, _, _, ⟨⟩, -, leads⟩ := leads.cons
  generalize progress.cell.ended = past at leads
  cases past with
  | true =>
    obtain ⟨_, _, _, ⟨⟩, -, leads⟩ := leads.cons
    exact .inl leads.nil
  | false =>
    obtain ⟨_, _, _, ⟨⟩, -, leads⟩ := leads.cons
    exact .inr leads

/-- A delivery that only writes to the log and the span leaves the account of the call alone. -/
theorem Leads.handled_of_silent {event : Event} {late entry : Log.Entry}
    {program : List Instruction} {acts : List Act}
    (leads : call.Leads numbers (.loadEnded late :: .log entry :: program) [] acts)
    (silent : ∀ instruction ∈ program, instruction.isSilent = true)
    (carries : event.message? = none) (continues : event.isEnd = false) :
    call.Handled identity event acts := by
  rcases leads.opened with rfl | leads
  · exact .late
  · obtain ⟨more, rfl, silence⟩ := leads.silent silent
    refine .silent carries (List.forall_mem_append.2 ⟨by simp [Act.isSilent], silence⟩) ?_
    rw [continues]
    exact nofun

theorem isSilent_of_mem_headerProgram :
    ∀ instruction ∈ call.headerProgram, instruction.isSilent = true := by
  unfold headerProgram
  cases call.peer with
  | none => exact nofun
  | some peer =>
    exact List.forall_mem_append.2 ⟨List.forall_mem_map.2 fun _ _ => rfl,
      List.forall_mem_map.2 fun _ _ => rfl⟩

theorem Leads.handled (recorded : call.tracking = .recorded identity) {event : Event}
    {acts : List Act} (leads : call.Leads numbers (call.program event) [] acts) :
    call.Handled identity event acts := by
  obtain ⟨client, occurrence⟩ := event
  cases occurrence with
  | ended completion =>
    rcases leads.of_end recorded rfl with rfl | rfl | ⟨exported, rfl⟩
    · exact .late
    · exact .silent rfl (by simp [Act.isSilent]) fun _ => ⟨.swappedEnded true, by simp, rfl⟩
    · refine .completed numbers rfl ?_ (fun direction => ?_) fun act present direction => ?_
      · rw [summary, recorded]
        rfl
      · cases direction <;> simp
      · simp only [List.mem_cons, List.not_mem_nil, or_false] at present
        rcases present with rfl | rfl | rfl | rfl | rfl | rfl | rfl | rfl <;>
          refine ⟨rfl, ?_⟩ <;> first | rfl | rw [measures_measure]; cases direction <;> rfl
  | message direction message =>
    unfold program messageProgram at leads
    rw [recorded] at leads
    rcases leads.opened with rfl | leads
    · exact .late
    · obtain ⟨_, _, _, ⟨⟩, -, leads⟩ := leads.cons
      obtain ⟨_, _, _, ⟨⟩, -, leads⟩ := leads.cons
      obtain ⟨more, rfl, silence⟩ := leads.silent fun instruction present => by
        rcases List.mem_append.1 present with inside | last
        · obtain ⟨entry, -, rfl⟩ := List.mem_map.1 inside
          rfl
        · rw [List.mem_singleton.1 last]
          rfl
      exact .message rfl silence
  | header direction metadata =>
    unfold program at leads
    rw [recorded] at leads
    cases direction with
    | inbound => exact leads.handled_of_silent nofun rfl rfl
    | outbound => exact leads.handled_of_silent isSilent_of_mem_headerProgram rfl rfl
  | _ =>
    unfold program at leads
    rw [recorded] at leads
    exact leads.handled_of_silent nofun rfl rfl

namespace Handled

variable {event : Event} {acts : List Act}

theorem counts_of_silent {act : Act} (silent : act.isSilent = true) (direction : Direction) :
    act.counts direction = false := by
  cases act <;> first | rfl | cases silent

theorem measurement?_of_silent {act : Act} (silent : act.isSilent = true) :
    act.measurement? = none := by
  cases act <;> first | rfl | cases silent

theorem filterMap_of_silent (silence : ∀ act ∈ acts, act.isSilent = true) :
    acts.filterMap Act.measurement? = [] :=
  List.filterMap_eq_nil_iff.2 fun act present => measurement?_of_silent (silence act present)

theorem countP_of_silent (silence : ∀ act ∈ acts, act.isSilent = true) (direction : Direction)
    (instrument : String) :
    acts.countP (Act.counts direction) = 0 ∧ acts.countP (Act.measures instrument) = 0 := by
  constructor
  · refine List.countP_eq_zero.2 fun act present => ?_
    rw [counts_of_silent (silence act present)]
    exact Bool.false_ne_true
  · refine List.countP_eq_zero.2 fun act present => ?_
    rw [Act.measures, measurement?_of_silent (silence act present)]
    exact Bool.false_ne_true

/-- A delivery measures a size for each message that it counts. -/
theorem countP_counts (handled : call.Handled identity event acts) (direction : Direction) :
    acts.countP (Act.counts direction) =
      acts.countP (Act.measures (direction.sizeSpec.name call.role.label)) := by
  cases handled with
  | late => rfl
  | silent carries silence =>
    obtain ⟨counts, measures⟩ := countP_of_silent silence direction _
    rw [counts, measures]
  | @message other message entry ordinal more carries silence =>
    obtain ⟨counts, measures⟩ := countP_of_silent silence direction
      (direction.sizeSpec.name call.role.label)
    simp only [List.countP_cons, counts, measures, measures_measure]
    cases other <;> cases direction <;> rfl
  | @completed completion entry more numbers ended measured loads quiet =>
    have rest : more.countP (Act.counts direction) =
        more.countP (Act.measures (direction.sizeSpec.name call.role.label)) :=
      List.countP_congr fun act present => by
        rw [(quiet act present direction).1, (quiet act present direction).2]
    simp only [List.countP_cons, rest]
    rfl

/-- An end that returns has seen that the flag is set, or has set it. -/
theorem tells (handled : call.Handled identity event acts) (ends : event.isEnd = true) :
    ∃ act ∈ acts, act.tellsEnd = true := by
  cases handled with
  | late => exact ⟨.loadedEnded true, by simp, rfl⟩
  | silent carries silence lost => exact lost ends
  | message carries silence =>
    obtain ⟨client, occurrence⟩ := event
    cases occurrence with
    | ended completion => cases carries
    | _ => cases ends
  | completed => exact ⟨.swappedEnded false, by simp, rfl⟩

/-- A delivery that does not win the flag measures its message, if it has one and finds the call
open, and nothing otherwise. -/
theorem of_lost (handled : call.Handled identity event acts)
    (recorded : call.tracking = .recorded identity) (lost : .swappedEnded false ∉ acts) :
    (.loadedEnded false ∈ acts →
        acts.filterMap Act.measurement? = call.sizes event.message?.toList) ∧
      (.loadedEnded false ∉ acts → acts.filterMap Act.measurement? = []) := by
  unfold sizes
  rw [recorded]
  cases handled with
  | late => exact ⟨by simp, fun _ => rfl⟩
  | silent carries silence =>
    rw [carries]
    exact ⟨fun _ => filterMap_of_silent silence, fun _ => filterMap_of_silent silence⟩
  | message carries silence =>
    refine ⟨fun _ => ?_, fun shut => absurd List.mem_cons_self shut⟩
    rw [carries]
    show _ :: List.filterMap _ _ = [_]
    rw [filterMap_of_silent silence]
  | completed => exact absurd (by simp) lost

/-- Who counts is a message that has found the call open. -/
theorem of_counts (handled : call.Handled identity event acts) {act : Act} (present : act ∈ acts)
    {direction : Direction} (counts : act.counts direction = true) :
    event.message?.isSome = true ∧ .loadedEnded false ∈ acts := by
  cases handled with
  | late =>
    simp only [List.mem_cons, List.not_mem_nil, or_false] at present
    rcases present with rfl | rfl <;> cases counts
  | silent carries silence =>
    rw [counts_of_silent (silence act present)] at counts
    cases counts
  | message carries silence => exact ⟨by rw [carries]; rfl, List.mem_cons_self⟩
  | completed numbers ended measured loads quiet =>
    simp only [List.mem_cons] at present
    rcases present with rfl | rfl | rfl | inside
    · cases counts
    · cases counts
    · cases counts
    · rw [(quiet act inside direction).1] at counts
      cases counts

/-- What the end that has won the flag has done before that and after. -/
theorem of_win (handled : call.Handled identity event acts) (won : .swappedEnded false ∈ acts) :
    ∃ (completion : Completion) (numbers : Direction → UInt64) (before after : List Act),
      event.occurrence = .ended completion ∧ acts = before ++ .swappedEnded false :: after ∧
      before.filterMap Act.measurement? = [] ∧
      after.filterMap Act.measurement? =
        call.summary completion ⟨true, numbers .inbound, numbers .outbound⟩ ∧
      ∀ direction, .loadedCount direction (numbers direction) ∈ after := by
  cases handled with
  | late => simp at won
  | silent carries silence => cases silence _ won
  | message carries silence =>
    simp only [List.mem_cons, reduceCtorEq, false_or] at won
    cases silence _ won
  | @completed completion entry more numbers ended measured loads quiet =>
    exact ⟨completion, numbers, [.loadedEnded false, .logged entry], more, ended, rfl, rfl,
      measured, loads⟩

end Handled

end Call

/-! ## Complete histories -/

/-- Whether no message that found the call open among the first deeds is still under way in the
second ones. -/
def Deed.NoneUnderWay (events : List Event) (opening closing : List Deed) : Prop :=
  ∀ deed ∈ closing, ∀ {event : Event}, events[deed.place]? = some event →
    event.message?.isSome = true → ⟨deed.place, .loadedEnded false⟩ ∉ opening

/-- Where no deed before a moment wins the end flag and no message does anything after it, no
message is under way when the flag is won. -/
theorem Deed.noneUnderWay_of_parted {events : List Event}
    {first second opening closing : List Deed} {winner : Nat}
    (parted : first ++ second = opening ++ ⟨winner, .swappedEnded false⟩ :: closing)
    (early : ∀ deed ∈ first, deed.act.isWin = false)
    (late : ∀ deed ∈ second, ∀ {event : Event}, events[deed.place]? = some event →
      event.message? = none) : NoneUnderWay events opening closing := by
  have inside : ∀ deed ∈ closing, deed ∈ second := by
    rcases List.append_eq_append_iff.1 parted with ⟨between, -, rest⟩ | ⟨between, rfl, rest⟩
    · intro deed present
      rw [rest]
      exact List.mem_append_right _ (List.mem_cons_of_mem _ present)
    · cases between with
      | nil =>
        intro deed present
        rw [← show _ = second from rest]
        exact List.mem_cons_of_mem _ present
      | cons won between =>
        obtain ⟨rfl, -⟩ := List.cons.inj rest
        cases early _ (List.mem_append_right _ List.mem_cons_self)
  intro deed present event there carries
  rw [late deed (inside deed present) there] at carries
  cases carries

namespace Call

variable {call : Call} {identity : List Attribute}

/-- How a call is measured around the deed that wins its end flag, and what the end that has won
reports as the numbers of messages. -/
structure MeasuredAround (call : Call) (events : List Event) (history opening : List Deed)
    (winner : Nat) (closing : List Deed) (completion : Completion)
    (reported : Direction → UInt64) : Prop where
  parted : history = opening ++ ⟨winner, .swappedEnded false⟩ :: closing
  ended : ∃ event, events[winner]? = some event ∧ event.occurrence = .ended completion
  /-- No other deed wins the end flag. -/
  alone : ∀ deed ∈ opening ++ closing, deed.act ≠ .swappedEnded false
  /-- The end measures nothing before it has won. -/
  before : (Deed.actsAt winner opening).filterMap Act.measurement? = []
  /-- It measures the call after that. -/
  summary : (Deed.actsAt winner closing).filterMap Act.measurement? =
    call.summary completion ⟨true, reported .inbound, reported .outbound⟩
  /-- Another delivery measures its message, if it has one and found the call open. -/
  messages : ∀ {place : Nat} {event : Event}, events[place]? = some event → place ≠ winner →
    ⟨place, .loadedEnded false⟩ ∈ opening →
      (Deed.actsAt place history).filterMap Act.measurement? = call.sizes event.message?.toList
  /-- It measures nothing if it did not find it open before the end had won. -/
  dropped : ∀ {place : Nat}, place ≠ winner → ⟨place, .loadedEnded false⟩ ∉ opening →
    (Deed.actsAt place history).filterMap Act.measurement? = []
  /-- The end reports the messages that were counted when it looked, and misses those that are
  counted later; the size of all of them is measured. -/
  counted : ∀ direction, ∃ early late,
    closing = early ++ ⟨winner, .loadedCount direction (reported direction)⟩ :: late ∧
      reported direction = .ofNat ((opening ++ early).countP (·.act.counts direction)) ∧
      history.countP (·.act.measures (direction.sizeSpec.name call.role.label)) =
        (opening ++ early).countP (·.act.counts direction) +
          late.countP (·.act.counts direction)

/-- A history of deliveries on a recorded call that have all returned. -/
structure Complete (call : Call) (identity : List Attribute) (events : List Event)
    (history : List Deed) : Prop where
  explained : Cell.fresh.Explains history
  handled : ∀ {place : Nat} {event : Event}, events[place]? = some event →
    call.Handled identity event (Deed.actsAt place history)
  placed : ∀ deed ∈ history, ∃ event, events[deed.place]? = some event

namespace Complete

variable {events : List Event} {history opening closing : List Deed} {winner : Nat}

theorem actsAt_eq_nil (complete : call.Complete identity events history) {place : Nat}
    (outside : events[place]? = none) : Deed.actsAt place history = [] := by
  refine List.eq_nil_iff_forall_not_mem.2 fun act present => ?_
  obtain ⟨event, there⟩ := complete.placed _ (Deed.mem_actsAt.1 present)
  rw [show events[place]? = some event from there] at outside
  cases outside

/-- As many sizes are measured as messages are counted. -/
theorem countP_counts (complete : call.Complete identity events history) (direction : Direction) :
    history.countP (·.act.counts direction) =
      history.countP (·.act.measures (direction.sizeSpec.name call.role.label)) := by
  refine Deed.countP_eq_of_actsAt fun place => ?_
  cases there : events[place]? with
  | none =>
    rw [complete.actsAt_eq_nil there]
    rfl
  | some event => exact (complete.handled there).countP_counts direction

theorem exists_win (complete : call.Complete identity events history)
    (ending : ∃ event ∈ events, event.isEnd = true) :
    ∃ opening winner closing, history = opening ++ ⟨winner, .swappedEnded false⟩ :: closing := by
  obtain ⟨event, present, ends⟩ := ending
  obtain ⟨place, there⟩ := List.mem_iff_getElem?.1 present
  obtain ⟨act, inside, tells⟩ := (complete.handled there).tells ends
  exact complete.explained.exists_win rfl ⟨_, Deed.mem_actsAt.1 inside, tells⟩

/-- The end flag is won once. -/
theorem alone (complete : call.Complete identity events history)
    (parted : history = opening ++ ⟨winner, .swappedEnded false⟩ :: closing) :
    ∀ deed ∈ opening ++ closing, deed.act ≠ .swappedEnded false := by
  obtain ⟨none, past⟩ := (parted ▸ complete.explained).around_win
  refine List.forall_mem_append.2 ⟨fun deed early won => ?_, fun deed late => (past deed late).2⟩
  have swaps := none deed early
  rw [won] at swaps
  cases swaps

theorem swap_not_mem_actsAt (complete : call.Complete identity events history)
    (parted : history = opening ++ ⟨winner, .swappedEnded false⟩ :: closing) {place : Nat}
    (other : place ≠ winner) : .swappedEnded false ∉ Deed.actsAt place history := by
  have alone := List.forall_mem_append.1 (complete.alone parted)
  rw [parted, Deed.mem_actsAt, List.mem_append, List.mem_cons]
  rintro (early | same | late)
  · exact alone.1 _ early rfl
  · cases same
    exact other rfl
  · exact alone.2 _ late rfl

theorem load_mem_actsAt (complete : call.Complete identity events history)
    (parted : history = opening ++ ⟨winner, .swappedEnded false⟩ :: closing) {place : Nat} :
    .loadedEnded false ∈ Deed.actsAt place history ↔ ⟨place, .loadedEnded false⟩ ∈ opening := by
  have explained := complete.explained
  rw [parted] at explained ⊢
  obtain ⟨-, past⟩ := explained.around_win
  rw [Deed.mem_actsAt, List.mem_append, List.mem_cons]
  refine ⟨?_, .inl⟩
  rintro (early | same | late)
  · exact early
  · cases same
  · exact absurd rfl (past _ late).1

theorem exists_measuredAround (complete : call.Complete identity events history)
    (recorded : call.tracking = .recorded identity)
    (parted : history = opening ++ ⟨winner, .swappedEnded false⟩ :: closing) :
    ∃ completion reported,
      call.MeasuredAround events history opening winner closing completion reported := by
  have alone := complete.alone parted
  obtain ⟨noneEarly, noneLate⟩ := List.forall_mem_append.1 alone
  have win : ⟨winner, .swappedEnded false⟩ ∈ history := by
    rw [parted]
    exact List.mem_append_right _ List.mem_cons_self
  obtain ⟨event, there⟩ := complete.placed _ win
  obtain ⟨completion, reported, before, after, ended, acts, nothing, measured, loads⟩ :=
    (complete.handled there).of_win (Deed.mem_actsAt.2 win)
  -- The end has won once, so what it did before and after that is found among the deeds.
  obtain ⟨rfl, -, rfl⟩ : Deed.actsAt winner opening = before ∧ _ ∧
      Deed.actsAt winner closing = after := by
    rw [parted, Deed.actsAt_append, Deed.actsAt_cons_self] at acts
    refine (List.append_cons_inj_of_notMem (fun early => ?_) fun late => ?_).1 acts
    · exact noneEarly _ (Deed.mem_actsAt.1 early) rfl
    · exact noneLate _ (Deed.mem_actsAt.1 late) rfl
  refine ⟨completion, reported, parted, ⟨event, there, ended⟩, alone, nothing, measured, ?_, ?_,
    ?_⟩
  · intro place event there other found
    exact ((complete.handled there).of_lost recorded (complete.swap_not_mem_actsAt parted other)).1
      ((complete.load_mem_actsAt parted).2 found)
  · intro place other missed
    cases there : events[place]? with
    | none =>
      rw [complete.actsAt_eq_nil there]
      rfl
    | some event =>
      exact ((complete.handled there).of_lost recorded
        (complete.swap_not_mem_actsAt parted other)).2
          (missed ∘ (complete.load_mem_actsAt parted).1)
  · intro direction
    obtain ⟨early, late, split⟩ := List.append_of_mem (Deed.mem_actsAt.1 (loads direction))
    have regrouped : history = (opening ++ ⟨winner, .swappedEnded false⟩ :: early) ++
        ⟨winner, .loadedCount direction (reported direction)⟩ :: late := by
      rw [parted, split, List.append_assoc, List.cons_append]
    have counted : (opening ++ ⟨winner, .swappedEnded false⟩ :: early).countP
          (·.act.counts direction) = (opening ++ early).countP (·.act.counts direction) := by
      rw [List.countP_append, List.countP_append]
      rfl
    refine ⟨early, late, split, ?_, ?_⟩
    · have number := (regrouped ▸ complete.explained).number_of_load
      rw [counted] at number
      exact number.trans (by cases direction <;> exact UInt64.zero_add _)
    · rw [← complete.countP_counts, regrouped, List.countP_append, counted]
      rfl

/-- Where no message that found the call open is still under way when the end wins, nothing but the
measurements of the end follows, and it has reported all sizes that are ever measured. -/
theorem settled (complete : call.Complete identity events history) {completion : Completion}
    {reported : Direction → UInt64}
    (around : call.MeasuredAround events history opening winner closing completion reported)
    (idle : Deed.NoneUnderWay events opening closing) :
    closing.filterMap (·.act.measurement?) =
        call.summary completion ⟨true, reported .inbound, reported .outbound⟩ ∧
      ∀ direction, reported direction =
        .ofNat (history.countP (·.act.measures (direction.sizeSpec.name call.role.label))) := by
  have inside {deed : Deed} (present : deed ∈ closing) : deed ∈ history := by
    rw [around.parted]
    exact List.mem_append_right _ (List.mem_cons_of_mem _ present)
  constructor
  · refine (Deed.filterMap_actsAt Act.measurement? fun deed present other => ?_).symm.trans
      around.summary
    have done := Deed.mem_actsAt.2 (inside present)
    obtain ⟨event, there⟩ := complete.placed deed (inside present)
    refine List.filterMap_eq_nil_iff.1 ?_ _ done
    by_cases found : ⟨deed.place, .loadedEnded false⟩ ∈ opening
    · rw [around.messages there other found]
      cases carried : event.message? with
      | none => exact call.sizes_nil
      | some message => exact absurd found (idle deed present there (by rw [carried]; rfl))
    · exact around.dropped other found
  · intro direction
    obtain ⟨early, late, split, number, sizes⟩ := around.counted direction
    have none : late.countP (·.act.counts direction) = 0 := by
      refine List.countP_eq_zero.2 fun deed present counts => ?_
      have closes : deed ∈ closing := by
        rw [split]
        exact List.mem_append_right _ (List.mem_cons_of_mem _ present)
      have done := Deed.mem_actsAt.2 (inside closes)
      obtain ⟨event, there⟩ := complete.placed deed (inside closes)
      obtain ⟨carries, found⟩ := (complete.handled there).of_counts done counts
      exact idle deed closes there carries ((complete.load_mem_actsAt around.parted).1 found)
    rw [number, sizes, none]
    rfl

end Complete

end Call

namespace Race

variable {handler : Handler} {race : Race} {handle : Handle} {identity : List Attribute}

/-- A delivery that returns has gone through its program. -/
theorem leadsFreely (clones : ∀ worker ∈ race.workers, worker.handle = handle)
    {schedule : List Nat} {place : Nat} {worker last : Worker}
    (there : race.workers[place]? = some worker)
    (reached : (race.run handler schedule).workers[place]? = some last) (returned : last.left = [])
    (once : ∀ direction, worker.left.countP (Instruction.loads direction) ≤ 1) :
    (handler.call handle).LeadsFreely worker.left worker.acts last.acts := by
  induction schedule generalizing race worker with
  | nil =>
    obtain rfl := Option.some.inj (there.symm.trans reached)
    rw [returned]
    exact fun fallback => ⟨fallback, fun _ _ => rfl, .done _⟩
  | cons index rest ih =>
    rcases race.step_cases handler index with
      same | ⟨stepped, instruction, after, act, next, here, todo, performed, -⟩
    · exact ih clones there (same ▸ reached) once
    have later := race.clones_step handler clones index
    by_cases this : index = place
    · subst this
      obtain rfl := Option.some.inj (here.symm.trans there)
      obtain rfl := clones stepped (List.mem_of_getElem? here)
      have fewer := Call.countP_loads_next performed after
      rw [todo] at once ⊢
      refine .step performed once (ih later (race.step_self handler index here todo performed)
        reached fun direction => (fewer direction).trans ?_)
      exact (List.sublist_cons_self instruction after).countP_le.trans (once direction)
    · exact ih later ((race.step_other handler index this).trans there) reached once

/-- The history of deliveries that begin with a race and have returned is complete. -/
theorem complete_history (known : race.world.Knows handle)
    (fresh : race.world.cellOf handle.cell = .fresh)
    (recorded : (handler.call handle).tracking = .recorded identity)
    (clones : ∀ worker ∈ race.workers, worker.handle = handle)
    (unbegun : ∀ worker ∈ race.workers,
      worker.left = (handler.call handle).program worker.event ∧ worker.acts = [])
    {schedule : List Nat}
    (returned : ∀ worker ∈ (race.run handler schedule).workers, worker.left = []) :
    (handler.call handle).Complete identity (race.workers.map (·.event))
      (race.history handler schedule) where
  explained := fresh ▸ explains_history schedule known clones
  placed := fun deed present => by
    obtain ⟨worker, there⟩ := exists_worker_of_deed schedule present
    exact ⟨worker.event, by rw [List.getElem?_map, there]; rfl⟩
  handled := fun {place event} listed => by
    rw [List.getElem?_map] at listed
    obtain ⟨worker, there, rfl⟩ := Option.map_eq_some_iff.1 listed
    obtain ⟨last, reached, later⟩ := race.later_run handler schedule there
    obtain ⟨left, acts⟩ := unbegun worker (List.mem_of_getElem? there)
    obtain ⟨numbers, -, leads⟩ := leadsFreely clones there reached
      (returned last (List.mem_of_getElem? reached))
      (left ▸ Call.countP_loads_program recorded worker.event) fun _ => 0
    have done := acts_run schedule there reached
    rw [left, acts] at leads
    rw [acts, List.nil_append] at done
    exact done ▸ leads.handled recorded

end Race

namespace World

variable {world : World} {handler : Handler} {parent : Context} {rpc : CallContext}
  {info : CallInfo}

/-- Events of a recorded call are delivered at the same time, in no order at all, an end among
them. When all have returned, one end alone has won the flag, and what was measured are the sizes of
the messages that found the call open and what that end measured after it had won. Where no such
message was still under way then, nothing but the measurements of that end follows, and it has
reported all sizes. -/
theorem measured_around_end (accepted : handler.records info = true) {deliveries : List Delivery}
    (clones : ∀ delivery ∈ deliveries,
      (world.tag handler parent rpc info).2.IsClone delivery.handle)
    (ending : ∃ delivery ∈ deliveries, delivery.event.isEnd = true) {schedule : List Nat}
    (returned : ∀ worker ∈
      ((world.race handler parent rpc info deliveries).run handler schedule).workers,
      worker.left = []) :
    let race := world.race handler parent rpc info deliveries
    let call := handler.call (world.tag handler parent rpc info).2
    let history := race.history handler schedule
    (race.run handler schedule).world.meters =
        Meter.recordAt world.meters handler.meter (history.filterMap (·.act.measurement?)) ∧
      ∃ opening winner closing completion reported,
        call.MeasuredAround (deliveries.map (·.event)) history opening winner closing completion
          reported ∧
        (Deed.NoneUnderWay (deliveries.map (·.event)) opening closing →
          closing.filterMap (·.act.measurement?) =
              call.summary completion ⟨true, reported .inbound, reported .outbound⟩ ∧
            ∀ direction, reported direction =
              .ofNat (history.countP
                (·.act.measures (direction.sizeSpec.name handler.role.label)))) := by
  intro race call history
  have recorded := world.tracking_call_tag handler parent rpc info accepted
  have unbegun : ∀ worker ∈ race.workers, _ := Race.unbegun_start clones
  have complete := Race.complete_history (world.knows_tag handler parent rpc info)
    (world.cellOf_tag handler parent rpc info) recorded
    (fun worker present => (unbegun worker present).1)
    (fun worker present => (unbegun worker present).2) returned
  rw [show race.workers.map (·.event) = _ from Race.events_start handler _ deliveries] at complete
  have ends : ∃ event ∈ deliveries.map (·.event), event.isEnd = true := by
    obtain ⟨delivery, inside, ends⟩ := ending
    exact ⟨delivery.event, List.mem_map_of_mem inside, ends⟩
  refine ⟨?_, ?_⟩
  · rw [Race.meters_run]
    show Meter.recordAt (world.tag handler parent rpc info).1.meters _ _ = _
    rw [(world.outputs_tag handler parent rpc info).1]
  · obtain ⟨opening, winner, closing, parted⟩ := complete.exists_win ends
    obtain ⟨completion, reported, around⟩ := complete.exists_measuredAround recorded parted
    exact ⟨opening, winner, closing, completion, reported, around,
      complete.settled around⟩

/-- No message of the sample race is under way when an end wins, so nothing but the measurements of
that end follows, and it reports the sizes of two requests and of one response. -/
theorem settled_in_sample_race :
    let race := Sample.world.race Sample.server .empty Sample.rpc Sample.info Sample.raced
    let history := race.history Sample.server (Sample.opening ++ Sample.closing)
    ∃ opening winner closing, history = opening ++ ⟨winner, .swappedEnded false⟩ :: closing ∧
      ((closing.filterMap (·.act.measurement?)).drop 1).map (·.value) = [.count 2, .count 1] := by
  intro race history
  have idle : (race.run Sample.server (Sample.opening ++ Sample.closing)).workers.all
      (·.left.isEmpty) = true := by decide +kernel
  obtain ⟨-, opening, winner, closing, completion, reported, around, settled⟩ :=
    @measured_around_end Sample.world Sample.server .empty Sample.rpc Sample.info rfl Sample.raced
      Sample.isClone_of_mem_raced ⟨⟨Sample.handle, ⟨false, .ended Sample.success⟩⟩,
        by simp [Sample.raced], rfl⟩
      (Sample.opening ++ Sample.closing) fun worker present =>
        List.isEmpty_iff.1 (List.all_eq_true.1 idle worker present)
  have quiet : Deed.NoneUnderWay (Sample.raced.map (·.event)) opening closing := by
    -- The deeds of the messages come first, and none of them wins the flag.
    have early : (race.history Sample.server Sample.opening).all (!·.act.isWin) = true := by
      decide +kernel
    have late : ((race.run Sample.server Sample.opening).history Sample.server
        Sample.closing).all (fun deed =>
          !((Sample.raced.map (·.event))[deed.place]?.any (·.message?.isSome))) = true := by
      decide +kernel
    refine Deed.noneUnderWay_of_parted
      ((Race.history_append _ _ _ _).symm.trans around.parted) (fun deed present => ?_)
      fun deed present event there => ?_
    · simpa using List.all_eq_true.1 early deed present
    · simpa [there] using List.all_eq_true.1 late deed present
  obtain ⟨measured, sizes⟩ := settled quiet
  refine ⟨opening, winner, closing, around.parted, ?_⟩
  have inbound : reported .inbound = 2 := (sizes .inbound).trans (by decide +kernel)
  have outbound : reported .outbound = 1 := (sizes .outbound).trans (by decide +kernel)
  rw [measured, inbound, outbound]
  rfl

end World

/-! ## A sample race (a message is under way when the call ends) -/

namespace Sample

/-- A message that comes in, and an end. -/
def overtaken : List Delivery := [⟨handle, request⟩, ⟨handle.clone, ⟨false, .ended success⟩⟩]

/-- The message looks at the flag, then the end takes all its steps, then the message goes on. -/
def overtaking : List Nat := [0, 0, 1, 1, 1, 1, 1, 1, 1, 1, 1, 1, 1, 0, 0, 0]

/-- The server handler without a meter. -/
def unmetered : Handler := { server with meter := none }

/-- What meters were given, in the order of time. -/
def measured (world : World) : List (String × MeasuredValue) :=
  world.meters.flatMap (·.measurements.map fun measurement =>
    (measurement.instrument, measurement.value))

end Sample

/-- The size of a message follows the end, which has reported no message. So it is with a message
that is delivered before the end, but through a handler without a meter: the end reports a message
whose size was never measured. -/
theorem World.message_overtaken :
    let tagged := Sample.world.tag Sample.server .empty Sample.rpc Sample.info
    let race := Sample.world.race Sample.server .empty Sample.rpc Sample.info Sample.overtaken
    let after := race.run Sample.server Sample.overtaking
    let apart := (tagged.1.deliver Sample.unmetered tagged.2 Sample.request).deliver Sample.server
      tagged.2.clone ⟨false, .ended Sample.success⟩
    (∀ worker ∈ after.workers, worker.left = []) ∧
      Sample.measured after.world = [("rpc.server.duration", .real 0),
        ("rpc.server.requests_per_rpc", .count 0), ("rpc.server.responses_per_rpc", .count 0),
        ("rpc.server.request.size", .count 5)] ∧
      Sample.measured apart = [("rpc.server.duration", .real 0),
        ("rpc.server.requests_per_rpc", .count 1), ("rpc.server.responses_per_rpc", .count 0)] := by
  intro tagged race after apart
  have idle : after.workers.all (·.left.isEmpty) = true := by decide +kernel
  refine ⟨fun worker present => List.isEmpty_iff.1 (List.all_eq_true.1 idle worker present), ?_, ?_⟩
  · decide +kernel
  · decide +kernel

end RpcTelemetry
