import RpcTelemetry.Proofs.Concurrency.Ordinals

/-!
# The history of a race

What deliveries do on a schedule is one list of deeds in the order of time (`Race.history`). It
tells everything about the race: the deeds at one place are the acts of the delivery there
(`acts_run`), what they measure is what the meter was given (`meters_run`), and the cell that the
deliveries share is explained by them, since every deed finds it as those before have left it
(`explains_history`).
-/

namespace RpcTelemetry

namespace Act

def measurement? : Act → Option Measurement
  | .recorded measurement => some measurement
  | _ => none

def counts (direction : Direction) (act : Act) : Bool := (act.ordinal? direction).isSome

def isSwap : Act → Bool
  | .swappedEnded _ => true
  | _ => false

/-- Whether an act finds a cell as it stands. -/
def Fits (cell : Cell) : Act → Prop
  | .loadedEnded past | .swappedEnded past => past = cell.ended
  | .counted direction ordinal => ordinal = cell.number direction + 1
  | .loadedCount direction number => number = cell.number direction
  | _ => True

end Act

/-- An act of the delivery at a place. -/
structure Deed where
  place : Nat
  act : Act

namespace Deed

/-- What the delivery at a place does among deeds. -/
def actsAt (place : Nat) (deeds : List Deed) : List Act :=
  (deeds.filter (·.place = place)).map (·.act)

variable {place : Nat} {deeds : List Deed}

theorem actsAt_append (first second : List Deed) :
    actsAt place (first ++ second) = actsAt place first ++ actsAt place second := by
  unfold actsAt
  rw [List.filter_append, List.map_append]

theorem actsAt_cons_self (act : Act) (rest : List Deed) :
    actsAt place (⟨place, act⟩ :: rest) = act :: actsAt place rest := by
  unfold actsAt
  rw [List.filter_cons_of_pos (by simp), List.map_cons]

theorem actsAt_cons_of_ne {deed : Deed} (other : deed.place ≠ place) (rest : List Deed) :
    actsAt place (deed :: rest) = actsAt place rest := by
  unfold actsAt
  rw [List.filter_cons_of_neg (by simpa using other)]

theorem mem_actsAt {act : Act} : act ∈ actsAt place deeds ↔ ⟨place, act⟩ ∈ deeds := by
  unfold actsAt
  rw [List.mem_map]
  constructor
  · rintro ⟨deed, present, rfl⟩
    obtain ⟨inside, here⟩ := List.mem_filter.1 present
    rwa [← of_decide_eq_true here]
  · intro present
    exact ⟨⟨place, act⟩, List.mem_filter.2 ⟨present, decide_eq_true rfl⟩, rfl⟩

theorem filterMap_actsAt {Value : Type} (give : Act → Option Value)
    (idle : ∀ deed ∈ deeds, deed.place ≠ place → give deed.act = none) :
    (actsAt place deeds).filterMap give = deeds.filterMap (give ·.act) := by
  induction deeds with
  | nil => rfl
  | cons deed rest ih =>
    obtain ⟨here, there⟩ := List.forall_mem_cons.1 idle
    by_cases same : deed.place = place
    · subst same
      rw [actsAt_cons_self, List.filterMap_cons, List.filterMap_cons, ih there]
    · rw [actsAt_cons_of_ne same, ih there, List.filterMap_cons, here same]

/-- The deeds away from a place. -/
def awayFrom (place : Nat) (deeds : List Deed) : List Deed :=
  deeds.filter fun deed => !decide (deed.place = place)

theorem actsAt_awayFrom (other : Nat) :
    actsAt place (awayFrom other deeds) = if place = other then [] else actsAt place deeds := by
  unfold actsAt awayFrom
  rw [List.filter_filter]
  split
  · next same =>
    have none : deeds.filter (fun deed => decide (deed.place = place) &&
        !decide (deed.place = other)) = [] :=
      List.filter_eq_nil_iff.2 fun deed _ => by simp [same]
    rw [none, List.map_nil]
  · next differ =>
    congr 1
    refine List.filter_congr fun deed _ => ?_
    by_cases here : deed.place = place
    · simp [here, differ]
    · simp [here]

/-- Two properties hold equally often among deeds if they do so among those at each place. -/
theorem countP_eq_of_actsAt {first second : Act → Bool}
    (same : ∀ place, (actsAt place deeds).countP first = (actsAt place deeds).countP second) :
    deeds.countP (first ·.act) = deeds.countP (second ·.act) := by
  -- The deeds at the place of the first one are taken out, which leaves fewer.
  induction size : deeds.length using Nat.strong_induction_on generalizing deeds with
  | _ length ih =>
    cases deeds with
    | nil => rfl
    | cons deed rest =>
      have parted (holds : Act → Bool) : (deed :: rest).countP (holds ·.act) =
          (actsAt deed.place (deed :: rest)).countP holds +
            (awayFrom deed.place (deed :: rest)).countP (holds ·.act) := by
        rw [actsAt, List.countP_map]
        exact List.countP_eq_countP_filter_add _ _ _
      have fewer : (awayFrom deed.place (deed :: rest)).length < length := by
        rw [← size]
        exact List.length_filter_lt_length_iff_exists.2 ⟨deed, List.mem_cons_self, by simp⟩
      rw [parted first, parted second, same deed.place]
      congr 1
      refine ih _ fewer (fun place => ?_) rfl
      rw [actsAt_awayFrom]
      split
      · rfl
      · exact same place

end Deed

namespace Cell

/-- A cell after an act. -/
def after (cell : Cell) : Act → Cell
  | .swappedEnded _ => { cell with ended := true }
  | .counted direction _ => (cell.count direction).2
  | _ => cell

/-- A cell after deeds. -/
def afterAll (cell : Cell) (deeds : List Deed) : Cell :=
  deeds.foldl (fun cell deed => cell.after deed.act) cell

/-- Whether every deed finds a cell as the ones before have left it. -/
def Explains (cell : Cell) : List Deed → Prop
  | [] => True
  | deed :: rest => deed.act.Fits cell ∧ (cell.after deed.act).Explains rest

variable {cell : Cell} {deeds : List Deed}

theorem explains_append {first second : List Deed} :
    cell.Explains (first ++ second) ↔
      cell.Explains first ∧ (cell.afterAll first).Explains second := by
  induction first generalizing cell with
  | nil => exact (and_iff_right trivial).symm
  | cons deed rest ih => exact (and_congr_right fun _ => ih).trans and_assoc.symm

theorem ended_after (cell : Cell) (act : Act) :
    (cell.after act).ended = (cell.ended || act.isSwap) := by
  cases act with
  | swappedEnded past => exact (Bool.or_true _).symm
  | counted direction ordinal => cases direction <;> exact (Bool.or_false _).symm
  | _ => exact (Bool.or_false _).symm

theorem ended_afterAll (cell : Cell) (deeds : List Deed) :
    (cell.afterAll deeds).ended = (cell.ended || deeds.any (·.act.isSwap)) := by
  induction deeds generalizing cell with
  | nil => exact (Bool.or_false _).symm
  | cons deed rest ih =>
    rw [List.any_cons, ← Bool.or_assoc, ← ended_after]
    exact ih _

theorem number_after (cell : Cell) (act : Act) (direction : Direction) :
    (cell.after act).number direction =
      cell.number direction + if act.counts direction then 1 else 0 := by
  cases act with
  | counted other ordinal =>
    cases other <;> cases direction <;> first | rfl | exact (UInt64.add_zero _).symm
  | _ => exact (UInt64.add_zero _).symm

/-- A counter tells how many deeds have counted. -/
theorem number_afterAll (cell : Cell) (deeds : List Deed) (direction : Direction) :
    (cell.afterAll deeds).number direction =
      cell.number direction + .ofNat (deeds.countP (·.act.counts direction)) := by
  induction deeds generalizing cell with
  | nil => exact (UInt64.add_zero _).symm
  | cons deed rest ih =>
    refine (ih _).trans ?_
    rw [number_after, List.countP_cons, UInt64.add_assoc, UInt64.ofNat_add]
    congr 1
    rw [UInt64.add_comm]
    split <;> rfl

/-- A loaded number tells how many deeds have counted before. -/
theorem Explains.number_of_load {before after : List Deed} {place : Nat} {direction : Direction}
    {number : UInt64}
    (explains : cell.Explains (before ++ ⟨place, .loadedCount direction number⟩ :: after)) :
    number = cell.number direction + .ofNat (before.countP (·.act.counts direction)) :=
  (explains_append.1 explains).2.1.trans (number_afterAll cell before direction)

/-- Once the flag is set no deed finds it unset. -/
theorem Explains.past_of_ended (explains : cell.Explains deeds) (past : cell.ended = true) :
    ∀ deed ∈ deeds, deed.act ≠ .loadedEnded false ∧ deed.act ≠ .swappedEnded false := by
  intro deed present
  obtain ⟨before, after, rfl⟩ := List.append_of_mem present
  have fits := (explains_append.1 explains).2.1
  have ended : (cell.afterAll before).ended = true := by
    rw [ended_afterAll, past, Bool.true_or]
  constructor <;> rintro act <;> rw [act] at fits <;> exact absurd (fits.trans ended) nofun

/-- Before a deed that sets the flag first none has set it, and after it none finds it unset. -/
theorem Explains.around_win {opening closing : List Deed} {winner : Nat}
    (explains : cell.Explains (opening ++ ⟨winner, .swappedEnded false⟩ :: closing)) :
    (∀ deed ∈ opening, deed.act.isSwap = false) ∧
      ∀ deed ∈ closing, deed.act ≠ .loadedEnded false ∧ deed.act ≠ .swappedEnded false := by
  obtain ⟨-, fits, further⟩ := explains_append.1 explains
  have unset : (cell.ended || opening.any (·.act.isSwap)) = false :=
    (ended_afterAll cell opening).symm.trans fits.symm
  refine ⟨fun deed present => ?_, further.past_of_ended rfl⟩
  exact Bool.eq_false_iff.2 (List.any_eq_false.1 (Bool.or_eq_false_iff.1 unset).2 deed present)

/-- Where a deed tells that the flag is set, one was the first to set it. -/
theorem Explains.exists_win (explains : cell.Explains deeds) (unset : cell.ended = false)
    (told : ∃ deed ∈ deeds, deed.act.tellsEnd = true) :
    ∃ opening winner closing, deeds = opening ++ ⟨winner, .swappedEnded false⟩ :: closing := by
  induction deeds generalizing cell with
  | nil =>
    obtain ⟨deed, present, -⟩ := told
    cases present
  | cons deed rest ih =>
    obtain ⟨place, act⟩ := deed
    obtain ⟨fits, further⟩ := explains
    cases swap : act.isSwap with
    | true =>
      obtain ⟨past, rfl⟩ : ∃ past, act = .swappedEnded past := by
        cases act <;> first | exact ⟨_, rfl⟩ | cases swap
      obtain rfl : past = false := fits.trans unset
      exact ⟨[], place, rest, rfl⟩
    | false =>
      have still : (cell.after act).ended = false := by
        rw [ended_after, unset, swap]
        rfl
      obtain ⟨told, present, tells⟩ := told
      rcases List.mem_cons.1 present with rfl | present
      · cases act with
        | loadedEnded past =>
          obtain rfl : past = false := fits.trans unset
          cases tells
        | swappedEnded past => cases swap
        | _ => cases tells
      · obtain ⟨opening, winner, closing, rfl⟩ := ih further still ⟨told, present, tells⟩
        exact ⟨_ :: opening, winner, closing, rfl⟩

end Cell

namespace Call

variable {call : Call} {acts : List Act} {progress next : Progress} {instruction : Instruction}
  {act : Act}

theorem fits_of_perform (performed : call.perform acts progress instruction = (act, next)) :
    act.Fits progress.cell ∧ next.cell = progress.cell.after act := by
  cases instruction with
  | count direction =>
    cases performed
    cases direction <;> exact ⟨rfl, rfl⟩
  | _ =>
    cases performed
    first | exact ⟨rfl, rfl⟩ | exact ⟨trivial, rfl⟩

end Call

/-! ## The history of a race -/

namespace Race

variable (handler : Handler) (race : Race)

/-- What deliveries do on a schedule, in the order of time. -/
def history (race : Race) : List Nat → List Deed
  | [] => []
  | index :: rest =>
    ((race.act? handler index).map (Deed.mk index)).toList ++
      (race.step handler index).history rest

/-- The deeds on a schedule are those of its first step, if there is one, and those after it. -/
theorem history_cons_cases (index : Nat) (rest : List Nat) :
    (race.step handler index = race ∧
        race.history handler (index :: rest) = race.history handler rest) ∨
      ∃ worker instruction after act next, race.workers[index]? = some worker ∧
        worker.left = instruction :: after ∧
        (handler.call worker.handle).perform worker.acts (race.world.progressOf worker.handle)
          instruction = (act, next) ∧
        race.step handler index =
          ⟨race.world.commit handler worker.handle (next, act.output),
            race.workers.set index (worker.advance act (instruction.next after act))⟩ ∧
        race.history handler (index :: rest) =
          ⟨index, act⟩ :: (race.step handler index).history handler rest := by
  have parted : race.history handler (index :: rest) =
      ((race.act? handler index).map (Deed.mk index)).toList ++
        (race.step handler index).history handler rest := rfl
  rw [parted]
  rcases race.act_cases handler index with
    ⟨idle, same⟩ | ⟨worker, instruction, after, act, next, there, left, performed, acted, step⟩
  · rw [idle, same]
    exact .inl ⟨rfl, rfl⟩
  · rw [acted]
    exact .inr ⟨worker, instruction, after, act, next, there, left, performed, step, rfl⟩

theorem history_append (first second : List Nat) :
    race.history handler (first ++ second) =
      race.history handler first ++ (race.run handler first).history handler second := by
  induction first generalizing race with
  | nil => rfl
  | cons index rest ih =>
    show _ ++ (race.step handler index).history handler (rest ++ second) = (_ ++ _) ++ _
    rw [ih, List.append_assoc]
    rfl

theorem clones_step {handle : Handle}
    (clones : ∀ worker ∈ race.workers, worker.handle = handle) (index : Nat) :
    ∀ worker ∈ (race.step handler index).workers, worker.handle = handle := by
  intro worker present
  obtain ⟨place, found⟩ := List.mem_iff_getElem?.1 present
  obtain ⟨former, there, later⟩ := race.former_step handler index found
  exact later.handle.trans (clones former (List.mem_of_getElem? there))

variable {handler} {race} {handle : Handle} (schedule : List Nat)

/-- The deeds of deliveries that share a cell explain it. -/
theorem explains_history (known : race.world.Knows handle)
    (clones : ∀ worker ∈ race.workers, worker.handle = handle) :
    (race.world.cellOf handle.cell).Explains (race.history handler schedule) := by
  induction schedule generalizing race with
  | nil => trivial
  | cons index rest ih =>
    rcases race.history_cons_cases handler index rest with
      ⟨-, further⟩ | ⟨worker, instruction, after, act, next, there, -, performed, step, further⟩
    · rw [further]
      exact ih known clones
    · obtain rfl := clones worker (List.mem_of_getElem? there)
      obtain ⟨fits, left⟩ := Call.fits_of_perform performed
      have cell : (race.step handler index).world.cellOf worker.handle.cell = next.cell := by
        rw [step]
        exact race.world.cellOf_commit handler known _
      have still : (race.step handler index).world.Knows worker.handle := by
        rw [step]
        exact race.world.knows_commit handler _ known
      have onward := ih still (race.clones_step handler clones index)
      rw [cell, left] at onward
      rw [further]
      exact ⟨fits, onward⟩

theorem measurements_output (act : Act) : act.output.measurements = act.measurement?.toList := by
  cases act <;> rfl

/-- What deliveries measure goes to the meter of the handler, in the order of time. -/
theorem meters_run :
    (race.run handler schedule).world.meters =
      Meter.recordAt race.world.meters handler.meter
        ((race.history handler schedule).filterMap (·.act.measurement?)) := by
  induction schedule generalizing race with
  | nil => exact (DeliveryLemmas.recordAt_nil _ _).symm
  | cons index rest ih =>
    refine (@ih (race.step handler index)).trans ?_
    rcases race.history_cons_cases handler index rest with
      ⟨same, further⟩ | ⟨worker, instruction, after, act, next, -, -, -, step, further⟩
    · rw [further, same]
    · have meters : (race.step handler index).world.meters =
          Meter.recordAt race.world.meters handler.meter act.measurement?.toList := by
        rw [step, DeliveryLemmas.commit_eq, measurements_output]
      rw [further, meters, DeliveryLemmas.recordAt_recordAt, List.filterMap_cons]
      cases act.measurement? <;> rfl

/-- The acts of a delivery are the deeds at its place. -/
theorem acts_run {place : Nat} {worker last : Worker} (there : race.workers[place]? = some worker)
    (reached : (race.run handler schedule).workers[place]? = some last) :
    last.acts = worker.acts ++ Deed.actsAt place (race.history handler schedule) := by
  induction schedule generalizing race worker with
  | nil =>
    obtain rfl := Option.some.inj (there.symm.trans reached)
    exact (List.append_nil _).symm
  | cons index rest ih =>
    rcases race.history_cons_cases handler index rest with
      ⟨same, further⟩ | ⟨stepped, instruction, after, act, next, here, left, performed, -, further⟩
    · rw [further]
      exact ih there (same ▸ reached)
    · rw [further]
      by_cases this : index = place
      · subst this
        obtain rfl := Option.some.inj (here.symm.trans there)
        have found := race.step_self handler index there left performed
        rw [ih found reached, Deed.actsAt_cons_self]
        exact List.append_assoc _ _ _
      · rw [Deed.actsAt_cons_of_ne this]
        exact ih ((race.step_other handler index this).trans there) reached

/-- A deed is one of a delivery. -/
theorem exists_worker_of_deed {deed : Deed} (present : deed ∈ race.history handler schedule) :
    ∃ worker, race.workers[deed.place]? = some worker := by
  induction schedule generalizing race with
  | nil => cases present
  | cons index rest ih =>
    have before (later : deed ∈ (race.step handler index).history handler rest) :
        ∃ worker, race.workers[deed.place]? = some worker := by
      obtain ⟨worker, found⟩ := ih later
      obtain ⟨former, there, -⟩ := race.former_step handler index found
      exact ⟨former, there⟩
    rcases race.history_cons_cases handler index rest with
      ⟨same, further⟩ | ⟨worker, instruction, after, act, next, there, -, -, -, further⟩
    · rw [further] at present
      exact before (by rwa [same])
    · rw [further] at present
      rcases List.mem_cons.1 present with rfl | later
      · exact ⟨worker, there⟩
      · exact before later

end Race

end RpcTelemetry
