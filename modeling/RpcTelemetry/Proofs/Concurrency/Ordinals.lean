import Mathlib.Algebra.Order.BigOperators.Group.List
import RpcTelemetry.Proofs.Call.Closing
import RpcTelemetry.Proofs.Concurrency.Race
import RpcTelemetry.Proofs.World.Tagging

/-!
# Ordinals and completion in a race

Result: `counted_without_gaps`. The messages and the ends of a recorded call are delivered at the
same time, through clones of its handle, but the last message has been handled when the first end
begins. Whatever the schedule, the ordinals in each direction are 1, 2 and so on without a gap, and
one end alone closes the span and measures the call.

One invariant carries the proof (`Race.Lawful`). The two counters tell how many ordinals were given
out (`numbers`), which together with those still due make up the messages (`budget`), so no counter
overflows; and the end flag tells whether an end has won (`wins`).
-/

namespace RpcTelemetry

/-- Whether an event is a message in a direction. -/
def Event.carries (event : Event) (direction : Direction) : Bool :=
  event.message?.any (·.1 = direction)

namespace Instruction

def counts (direction : Direction) : Instruction → Bool
  | .count other => other = direction
  | _ => false

def isSwap : Instruction → Bool
  | .swapEnded => true
  | _ => false

/-- Whether an instruction belongs to the handling of an end only. -/
def isFinal : Instruction → Bool
  | .swapEnded | .loadCount _ => true
  | _ => false

end Instruction

namespace Act

/-- Whether an act has set the end flag first. -/
def isWin : Act → Bool
  | .swappedEnded past => !past
  | _ => false

/-- Whether an act tells that the end flag is set. -/
def tellsEnd : Act → Bool
  | .loadedEnded past => past
  | .swappedEnded _ => true
  | _ => false

def isClosing : Act → Bool
  | .endedSpan _ => true
  | _ => false

end Act

namespace Worker

variable (worker : Worker) (direction : Direction)

/-- The ordinals that a delivery was given. -/
def ordinals : List UInt64 := worker.acts.filterMap (Act.ordinal? direction)

/-- How many ordinals a delivery still asks for. -/
def due : Nat := worker.left.countP (Instruction.counts direction)

/-- The acts by which a delivery has set the end flag first. -/
def wins : List Act := worker.acts.filter Act.isWin

/-- How often a delivery has ended the span. -/
def closings : Nat := worker.acts.countP Act.isClosing

/-- What a delivery has measured. -/
def measurements : List Measurement := (Act.outputs worker.acts).measurements

/-- A later state of a delivery. -/
structure Later (former : Worker) (worker : Worker) : Prop where
  handle : worker.handle = former.handle
  event : worker.event = former.event
  acts : former.acts <+: worker.acts
  returned : former.left = [] → worker = former

theorem Later.refl : worker.Later worker := ⟨rfl, rfl, List.prefix_rfl, fun _ => rfl⟩

variable {worker} {middle last : Worker}

theorem Later.trans (first : worker.Later middle) (second : middle.Later last) :
    worker.Later last where
  handle := second.handle.trans first.handle
  event := second.event.trans first.event
  acts := first.acts.trans second.acts
  returned := fun empty => by
    have same := first.returned empty
    rw [second.returned (same ▸ empty), same]

end Worker

/-! ## One step -/

namespace Race

variable (handler : Handler) (race : Race) (index : Nat)

/-- What the next step of a delivery does, if it has one. -/
def act? : Option Act :=
  match race.workers[index]? with
  | none => none
  | some worker =>
    worker.left.head?.map fun instruction =>
      ((handler.call worker.handle).perform worker.acts (race.world.progressOf worker.handle)
        instruction).1

/-- A step is one of a delivery that has something left to do, or changes nothing. -/
theorem act_cases :
    (race.act? handler index = none ∧ race.step handler index = race) ∨
      ∃ worker instruction rest act next, race.workers[index]? = some worker ∧
        worker.left = instruction :: rest ∧
        (handler.call worker.handle).perform worker.acts (race.world.progressOf worker.handle)
          instruction = (act, next) ∧
        race.act? handler index = some act ∧
        race.step handler index =
          ⟨race.world.commit handler worker.handle (next, act.output),
            race.workers.set index (worker.advance act (instruction.next rest act))⟩ := by
  cases there : race.workers[index]? with
  | none =>
    refine .inl ⟨?_, ?_⟩
    · rw [act?, there]
    · rw [step, there]
  | some worker =>
    obtain ⟨inside, found⟩ := List.getElem?_eq_some_iff.1 there
    cases left : worker.left with
    | nil =>
      refine .inl ⟨?_, ?_⟩
      · simp only [act?, there, left, List.head?_nil, Option.map_none]
      · simp only [step, there, Worker.step, left]
        rw [← found, List.set_getElem_self]
    | cons instruction rest =>
      refine .inr ⟨worker, instruction, rest, _, _, rfl, left, rfl, ?_,
        race.step_of_instruction handler there left rfl⟩
      rw [act?, there]
      show worker.left.head?.map _ = _
      rw [left]
      rfl

theorem step_cases :
    race.step handler index = race ∨
      ∃ worker instruction rest act next, race.workers[index]? = some worker ∧
        worker.left = instruction :: rest ∧
        (handler.call worker.handle).perform worker.acts (race.world.progressOf worker.handle)
          instruction = (act, next) ∧
        race.step handler index =
          ⟨race.world.commit handler worker.handle (next, act.output),
            race.workers.set index (worker.advance act (instruction.next rest act))⟩ := by
  rcases race.act_cases handler index with
    ⟨-, same⟩ | ⟨worker, instruction, rest, act, next, there, left, performed, -, step⟩
  · exact .inl same
  · exact .inr ⟨worker, instruction, rest, act, next, there, left, performed, step⟩

variable {place : Nat} {worker : Worker}

theorem step_self {instruction : Instruction} {rest : List Instruction} {act : Act}
    {next : Progress} (there : race.workers[index]? = some worker)
    (left : worker.left = instruction :: rest)
    (performed : (handler.call worker.handle).perform worker.acts
      (race.world.progressOf worker.handle) instruction = (act, next)) :
    (race.step handler index).workers[index]? =
      some (worker.advance act (instruction.next rest act)) := by
  obtain ⟨inside, -⟩ := List.getElem?_eq_some_iff.1 there
  rw [race.step_of_instruction handler there left performed]
  exact List.getElem?_set_self inside

theorem step_other (other : index ≠ place) :
    (race.step handler index).workers[place]? = race.workers[place]? := by
  rcases race.step_cases handler index with
    same | ⟨stepped, instruction, rest, act, next, -, -, -, step⟩
  · rw [same]
  · rw [step]
    exact List.getElem?_set_ne other

theorem later_step (there : race.workers[place]? = some worker) :
    ∃ later, (race.step handler index).workers[place]? = some later ∧ worker.Later later := by
  by_cases this : index = place
  · subst this
    rcases race.step_cases handler index with
      same | ⟨stepped, instruction, rest, act, next, here, left, performed, -⟩
    · rw [same]
      exact ⟨worker, there, .refl worker⟩
    · obtain rfl : stepped = worker := Option.some.inj (here.symm.trans there)
      refine ⟨_, race.step_self handler index here left performed, rfl, rfl,
        List.prefix_append _ _, fun empty => ?_⟩
      rw [left] at empty
      cases empty
  · exact ⟨worker, (race.step_other handler index this).trans there, .refl worker⟩

theorem former_step {later : Worker}
    (reached : (race.step handler index).workers[place]? = some later) :
    ∃ worker, race.workers[place]? = some worker ∧ worker.Later later := by
  cases there : race.workers[place]? with
  | none =>
    have outside : (race.step handler index).workers[place]? = none := by
      rcases race.step_cases handler index with
        same | ⟨stepped, instruction, rest, act, next, -, -, -, step⟩
      · rwa [same]
      · rw [step]
        rw [List.getElem?_eq_none_iff] at there ⊢
        rwa [List.length_set]
    rw [outside] at reached
    cases reached
  | some worker =>
    obtain ⟨found, same, grown⟩ := race.later_step handler index there
    obtain rfl := Option.some.inj (same.symm.trans reached)
    exact ⟨worker, rfl, grown⟩

theorem later_run (schedule : List Nat) (there : race.workers[place]? = some worker) :
    ∃ later, (race.run handler schedule).workers[place]? = some later ∧ worker.Later later := by
  induction schedule generalizing race worker with
  | nil => exact ⟨worker, there, .refl worker⟩
  | cons index rest ih =>
    obtain ⟨middle, found, first⟩ := race.later_step handler index there
    obtain ⟨last, reached, second⟩ := ih (race.step handler index) found
    exact ⟨last, reached, first.trans second⟩

theorem former_run (schedule : List Nat) {last : Worker}
    (reached : (race.run handler schedule).workers[place]? = some last) :
    ∃ worker, race.workers[place]? = some worker ∧ worker.Later last := by
  induction schedule generalizing race with
  | nil => exact ⟨last, reached, .refl last⟩
  | cons index rest ih =>
    obtain ⟨middle, found, second⟩ := ih (race.step handler index) reached
    obtain ⟨worker, there, first⟩ := race.former_step handler index found
    exact ⟨worker, there, first.trans second⟩

end Race

namespace Call

variable {call : Call} {acts : List Act} {progress next : Progress} {instruction : Instruction}
  {act : Act}

/-- Counting gives the next number, and nothing else touches a counter. -/
theorem ordinal_of_perform (performed : call.perform acts progress instruction = (act, next))
    (direction : Direction) :
    if instruction.counts direction then
      act.ordinal? direction = some (progress.cell.number direction + 1) ∧
        next.cell.number direction = progress.cell.number direction + 1
    else
      act.ordinal? direction = none ∧
        next.cell.number direction = progress.cell.number direction := by
  cases instruction with
  | count other =>
    cases performed
    cases other <;> cases direction <;> exact ⟨rfl, rfl⟩
  | _ =>
    cases performed
    cases direction <;> exact ⟨rfl, rfl⟩

/-- Only a swap sets the end flag, and it wins if the flag was not set. -/
theorem flag_of_perform (performed : call.perform acts progress instruction = (act, next)) :
    next.cell.ended = (progress.cell.ended || instruction.isSwap) ∧
      act.isWin = (instruction.isSwap && !progress.cell.ended) ∧
      (act.tellsEnd = true → next.cell.ended = true) := by
  cases instruction with
  | swapEnded =>
    cases performed
    exact ⟨(Bool.or_true _).symm, (Bool.true_and _).symm, fun _ => rfl⟩
  | count other =>
    cases performed
    cases other <;> exact ⟨(Bool.or_false _).symm, rfl, nofun⟩
  | loadEnded late =>
    cases performed
    exact ⟨(Bool.or_false _).symm, rfl, id⟩
  | _ =>
    cases performed
    exact ⟨(Bool.or_false _).symm, rfl, nofun⟩

/-- Only the end flag takes a delivery off its course. -/
theorem next_of_perform (performed : call.perform acts progress instruction = (act, next))
    (rest : List Instruction) :
    instruction.next rest act = rest ∨
      progress.cell.ended = true ∧
        ∃ entries : List Log.Entry, instruction.next rest act = entries.map .log := by
  cases instruction with
  | loadEnded late =>
    cases performed
    cases flag : progress.cell.ended with
    | true => exact .inr ⟨rfl, [late], rfl⟩
    | false => exact .inl rfl
  | swapEnded =>
    cases performed
    cases flag : progress.cell.ended with
    | true => exact .inr ⟨rfl, [], rfl⟩
    | false => exact .inl rfl
  | _ =>
    cases performed
    exact .inl rfl

end Call

/-! ## The program of an event -/

namespace Call

variable {call : Call} {identity : List Attribute}

/-- A message is counted once, and nothing else is. -/
theorem countP_program (recorded : call.tracking = .recorded identity) (event : Event)
    (direction : Direction) :
    (call.program event).countP (Instruction.counts direction) =
      if event.carries direction then 1 else 0 := by
  obtain ⟨client, occurrence⟩ := event
  unfold program
  rw [recorded]
  have logs (entries : List Log.Entry) :
      (entries.map Instruction.log).countP (Instruction.counts direction) = 0 :=
    List.countP_eq_zero.2 (List.forall_mem_map.2 fun _ _ => nofun)
  cases occurrence with
  | message other message =>
    unfold messageProgram
    rw [recorded]
    simp [List.countP_cons, logs, Instruction.counts, Event.carries, Event.message?]
  | header other metadata =>
    cases other with
    | inbound => rfl
    | outbound =>
      unfold headerProgram
      cases call.peer with
      | none => rfl
      | some peer =>
        have attributes : (peer.attributes.1.map Instruction.setAttribute).countP
            (Instruction.counts direction) = 0 :=
          List.countP_eq_zero.2 (List.forall_mem_map.2 fun _ _ => nofun)
        simp [logs, attributes, Instruction.counts, Event.carries, Event.message?]
  | ended completion =>
    unfold endProgram summaryProgram
    rw [recorded]
    rfl
  | began => rfl
  | trailer other metadata => rfl

/-- A program that looks at the counters, or sets the end flag, is that of an end. -/
theorem isEnd_of_isFinal (recorded : call.tracking = .recorded identity) {event : Event}
    {instruction : Instruction} (present : instruction ∈ call.program event)
    (final : instruction.isFinal = true) : event.isEnd = true := by
  obtain ⟨client, occurrence⟩ := event
  unfold program messageProgram headerProgram at present
  rw [recorded] at present
  rcases List.mem_cons.1 present with rfl | present
  · cases final
  rcases List.mem_cons.1 present with rfl | present
  · cases final
  cases occurrence with
  | ended completion => rfl
  | message direction message =>
    simp only [List.mem_cons, List.mem_append, List.mem_map, List.not_mem_nil, or_false] at present
    obtain ((rfl | rfl) | ⟨entry, -, rfl⟩) | rfl := present <;> cases final
  | header direction metadata =>
    cases direction with
    | inbound => cases present
    | outbound =>
      cases known : call.peer with
      | none =>
        rw [known] at present
        cases present
      | some peer =>
        simp only [known, List.mem_append, List.mem_map] at present
        obtain ⟨entry, -, rfl⟩ | ⟨added, -, rfl⟩ := present <;> cases final
  | began => cases present
  | trailer direction metadata => cases present

end Call

/-! ## The invariant -/

/-- What holds of a delivery at any time; `ended` is the end flag. -/
structure Worker.Sound (call : Call) (ended : Bool) (worker : Worker) : Prop where
  /-- What is left to do belongs to the program of the event, but for log entries. -/
  course : ∀ instruction ∈ worker.left,
    instruction ∈ call.program worker.event ∨ ∃ entry, instruction = .log entry
  budget : ∀ direction, (worker.ordinals direction).length + worker.due direction =
    if worker.event.carries direction then 1 else 0
  /-- Only an end wins. -/
  winner : worker.wins ≠ [] → worker.event.isEnd = true
  told : ∀ act ∈ worker.acts, act.tellsEnd = true → ended = true

/-- Whether every message was handled. -/
def Race.MessagesDone (race : Race) : Prop :=
  ∀ worker ∈ race.workers, worker.event.message?.isSome = true → worker.left = []

/-- What holds of a race at any time, if no end begins before every message was handled. -/
structure Race.Lawful (handler : Handler) (handle : Handle) (race : Race) : Prop where
  known : race.world.Knows handle
  clones : ∀ worker ∈ race.workers, worker.handle = handle
  few : ∀ direction, (race.workers.map (·.event)).countP (·.carries direction) < 2 ^ 63
  sound : ∀ worker ∈ race.workers,
    worker.Sound (handler.call handle) (race.world.cellOf handle.cell).ended
  numbers : ∀ direction, ((race.workers.flatMap (·.ordinals direction)).map (·.toNat)).Perm
    (List.range' 1 ((race.world.cellOf handle.cell).number direction).toNat)
  wins : (race.workers.flatMap (·.wins)).length =
    if (race.world.cellOf handle.cell).ended then 1 else 0
  late : (race.world.cellOf handle.cell).ended = true → race.MessagesDone

namespace OrdinalLemmas

/-- Where one element is replaced by one that gives more, all elements give that much more. -/
theorem flatMap_set_perm {Element Value : Type} (give : Element → List Value) {more : List Value}
    {elements : List Element} {former new : Element} {index : Nat}
    (there : elements[index]? = some former) (gives : give new = give former ++ more) :
    ((elements.set index new).flatMap give).Perm (elements.flatMap give ++ more) := by
  induction elements generalizing index with
  | nil => cases there
  | cons first rest ih =>
    cases index with
    | zero =>
      obtain rfl : first = former := Option.some.inj there
      rw [List.set_cons_zero, List.flatMap_cons, List.flatMap_cons, gives, List.append_assoc,
        List.append_assoc]
      exact List.perm_append_comm.append_left _
    | succ index =>
      rw [List.set_cons_succ, List.flatMap_cons, List.flatMap_cons, List.append_assoc]
      exact (ih there).append_left _

/-- The ordinals given out and those still due make up the messages. -/
theorem length_add_countP {call : Call} {ended : Bool} {workers : List Worker}
    (sound : ∀ worker ∈ workers, worker.Sound call ended) (direction : Direction) :
    (workers.flatMap (·.ordinals direction)).length +
        (workers.flatMap (·.left)).countP (Instruction.counts direction) =
      (workers.map (·.event)).countP (·.carries direction) := by
  induction workers with
  | nil => rfl
  | cons worker rest ih =>
    have here := (sound worker (by simp)).budget direction
    have there := ih fun other present => sound other (List.mem_cons_of_mem _ present)
    rw [Worker.due] at here
    rw [List.flatMap_cons, List.length_append, List.flatMap_cons, List.countP_append,
      List.map_cons, List.countP_cons]
    omega

/-- Who still asks for an ordinal has not got one, so that all messages make up for more than those
given out. -/
theorem length_lt_countP {call : Call} {ended : Bool} {workers : List Worker} {worker : Worker}
    (sound : ∀ worker ∈ workers, worker.Sound call ended) (direction : Direction)
    (present : worker ∈ workers) (due : 0 < worker.due direction) :
    (workers.flatMap (·.ordinals direction)).length <
      (workers.map (·.event)).countP (·.carries direction) := by
  have total := length_add_countP sound direction
  have part : worker.due direction ≤
      (workers.flatMap (·.left)).countP (Instruction.counts direction) := by
    obtain ⟨before, after, rfl⟩ := List.append_of_mem present
    rw [List.flatMap_append, List.flatMap_cons, List.countP_append, List.countP_append, Worker.due]
    omega
  omega

/-- Where all elements together give one value, one element gives it. -/
theorem exists_sole {Element Value : Type} {give : Element → List Value}
    {elements : List Element} (one : (elements.flatMap give).length = 1) :
    ∃ before element after, elements = before ++ element :: after ∧ give element ≠ [] ∧
      ∀ other ∈ before ++ after, give other = [] := by
  induction elements with
  | nil => cases one
  | cons first rest ih =>
    rw [List.flatMap_cons, List.length_append] at one
    cases given : give first with
    | nil =>
      rw [given, List.length_nil, Nat.zero_add] at one
      obtain ⟨before, element, after, rfl, gives, silent⟩ := ih one
      exact ⟨first :: before, element, after, rfl, gives, List.forall_mem_cons.2 ⟨given, silent⟩⟩
    | cons value more =>
      rw [given, List.length_cons] at one
      have none : rest.flatMap give = [] := List.eq_nil_of_length_eq_zero (by omega)
      exact ⟨[], first, rest, rfl, by simp [given], List.flatMap_eq_nil_iff.1 none⟩

end OrdinalLemmas

open OrdinalLemmas

namespace Worker

variable {worker : Worker} (act : Act) (left : List Instruction)

theorem ordinals_advance (direction : Direction) :
    (worker.advance act left).ordinals direction =
      worker.ordinals direction ++ (act.ordinal? direction).toList :=
  List.filterMap_append

theorem wins_advance :
    (worker.advance act left).wins = worker.wins ++ [act].filter Act.isWin :=
  List.filter_append _ _

variable {act}

theorem Sound.isEnd_of_isFinal {call : Call} {identity : List Attribute} {ended : Bool}
    {instruction : Instruction} {rest : List Instruction} (sound : worker.Sound call ended)
    (recorded : call.tracking = .recorded identity) (todo : worker.left = instruction :: rest)
    (final : instruction.isFinal = true) : worker.event.isEnd = true := by
  rcases sound.course instruction (todo ▸ List.mem_cons_self) with present | ⟨entry, rfl⟩
  · exact Call.isEnd_of_isFinal recorded present final
  · cases final

/-- A step of a delivery keeps what holds of it, if no message takes a step once the end flag is
set. -/
theorem Sound.step {call : Call} {identity : List Attribute} {progress next : Progress}
    {instruction : Instruction} {rest : List Instruction}
    (sound : worker.Sound call progress.cell.ended)
    (recorded : call.tracking = .recorded identity) (todo : worker.left = instruction :: rest)
    (performed : call.perform worker.acts progress instruction = (act, next))
    (late : progress.cell.ended = true → worker.event.message? = none) :
    (worker.advance act (instruction.next rest act)).Sound call next.cell.ended := by
  obtain ⟨flag, win, tells⟩ := Call.flag_of_perform performed
  have turn := Call.next_of_perform performed rest
  refine ⟨?course, fun direction => ?budget, ?winner, ?told⟩
  case course =>
    rcases turn with onward | ⟨-, entries, off⟩
    · rw [onward]
      intro later present
      refine sound.course later ?_
      rw [todo]
      exact List.mem_cons_of_mem _ present
    · rw [off]
      intro later present
      obtain ⟨entry, -, rfl⟩ := List.mem_map.1 present
      exact .inr ⟨entry, rfl⟩
  case budget =>
    have before := sound.budget direction
    have counted := Call.ordinal_of_perform performed direction
    have spent : (act.ordinal? direction).toList.length =
        if instruction.counts direction then 1 else 0 := by
      split at counted
      · next counts => rw [counted.1, if_pos counts, Option.toList_some, List.length_singleton]
      · next silent => rw [counted.1, if_neg silent, Option.toList_none, List.length_nil]
    rw [due, todo, List.countP_cons] at before
    rw [ordinals_advance, List.length_append, spent]
    show _ + (instruction.next rest act).countP _ = if worker.event.carries direction then 1 else 0
    rcases turn with onward | ⟨past, entries, off⟩
    · rw [onward]
      omega
    · -- What leaves its course is no message, and had no ordinal to ask for.
      have none : worker.event.carries direction = false := by
        rw [Event.carries, late past]
        rfl
      have uncounted : (entries.map Instruction.log).countP (Instruction.counts direction) = 0 :=
        List.countP_eq_zero.2 (List.forall_mem_map.2 fun _ _ => nofun)
      rw [none, if_neg Bool.false_ne_true] at before ⊢
      rw [off, uncounted]
      omega
  case winner =>
    rw [wins_advance]
    intro some
    cases won : act.isWin with
    | false =>
      rw [List.filter_cons_of_neg (by simp [won]), List.filter_nil, List.append_nil] at some
      exact sound.winner some
    | true =>
      have swap : instruction.isSwap = true := (Bool.and_eq_true_iff.1 (win.symm.trans won)).1
      refine sound.isEnd_of_isFinal recorded todo ?_
      cases instruction <;> first | rfl | cases swap
  case told =>
    intro former present told
    rcases List.mem_append.1 present with old | new
    · rw [flag, sound.told former old told]
      rfl
    · exact tells (List.mem_singleton.1 new ▸ told)

end Worker

namespace Race

variable {handler : Handler} {handle : Handle} {race : Race} {identity : List Attribute}

theorem events_step (handler : Handler) (race : Race) (index : Nat) :
    (race.step handler index).workers.map (·.event) = race.workers.map (·.event) := by
  rcases race.step_cases handler index with
    same | ⟨worker, instruction, rest, act, next, there, -, -, step⟩
  · rw [same]
  · obtain ⟨inside, found⟩ := List.getElem?_eq_some_iff.1 there
    have inside : index < (race.workers.map (·.event)).length := by
      rwa [List.length_map]
    have kept : (worker.advance act (instruction.next rest act)).event =
        (race.workers.map (·.event))[index] := by
      rw [List.getElem_map, found]
      rfl
    rw [step, List.map_set, kept, List.set_getElem_self]

theorem MessagesDone.step (done : race.MessagesDone) (index : Nat) :
    (race.step handler index).MessagesDone := by
  rcases race.step_cases handler index with
    same | ⟨worker, instruction, rest, act, next, there, todo, -, step⟩
  · rwa [same]
  · rw [step]
    intro other present carries
    rcases List.mem_or_eq_of_mem_set present with former | rfl
    · exact done other former carries
    · have idle := done worker (List.mem_of_getElem? there) carries
      rw [todo] at idle
      cases idle

/-- No counter overflows: who counts is a message that has not got its ordinal. -/
theorem Lawful.number_succ (lawful : race.Lawful handler handle) {worker : Worker}
    {instruction : Instruction} {rest : List Instruction} {direction : Direction}
    (present : worker ∈ race.workers) (todo : worker.left = instruction :: rest)
    (counts : instruction.counts direction = true) :
    ((race.world.cellOf handle.cell).number direction + 1).toNat =
      ((race.world.cellOf handle.cell).number direction).toNat + 1 := by
  have due : 0 < worker.due direction := by
    rw [Worker.due, todo, List.countP_cons, if_pos counts]
    exact Nat.succ_pos _
  have number := (lawful.numbers direction).length_eq
  rw [List.length_map, List.length_range'] at number
  have room := length_lt_countP lawful.sound direction present due
  have few := lawful.few direction
  rw [UInt64.toNat_add]
  exact Nat.mod_eq_of_lt (by rw [UInt64.toNat_one]; omega)

/-- A step keeps what holds of a race, if no end takes one before every message was handled. -/
theorem Lawful.step (lawful : race.Lawful handler handle)
    (recorded : (handler.call handle).tracking = .recorded identity) {index : Nat}
    (orderly : ∀ worker, race.workers[index]? = some worker → worker.left ≠ [] →
      worker.event.isEnd = true → race.MessagesDone) :
    (race.step handler index).Lawful handler handle := by
  rcases race.step_cases handler index with
    same | ⟨worker, instruction, rest, act, next, there, todo, performed, step⟩
  · rwa [same]
  have present := List.mem_of_getElem? there
  obtain rfl := lawful.clones worker present
  have cell : (race.step handler index).world.cellOf worker.handle.cell = next.cell := by
    rw [step]
    exact race.world.cellOf_commit handler lawful.known _
  have workers : (race.step handler index).workers =
      race.workers.set index (worker.advance act (instruction.next rest act)) := by
    rw [step]
  have reached : (race.world.progressOf worker.handle).cell =
      race.world.cellOf worker.handle.cell := rfl
  obtain ⟨flag, win, -⟩ := Call.flag_of_perform performed
  rw [reached] at flag win
  have sound := lawful.sound worker present
  have late : race.world.isEnded worker.handle = true → worker.event.message? = none := by
    intro past
    cases carried : worker.event.message? with
    | none => rfl
    | some message =>
      have idle := lawful.late past worker present (by rw [carried]; rfl)
      rw [todo] at idle
      cases idle
  constructor
  case known =>
    rw [step]
    exact race.world.knows_commit handler _ lawful.known
  case clones =>
    rw [workers]
    intro other inside
    rcases List.mem_or_eq_of_mem_set inside with former | rfl
    · exact lawful.clones other former
    · rfl
  case few =>
    rw [events_step]
    exact lawful.few
  case sound =>
    rw [workers, cell]
    intro other inside
    rcases List.mem_or_eq_of_mem_set inside with former | rfl
    · refine { lawful.sound other former with told := fun past before told => ?_ }
      rw [flag]
      exact Bool.or_eq_true_iff.2 (.inl ((lawful.sound other former).told past before told))
    · exact sound.step recorded todo performed late
  case numbers =>
    intro direction
    have before := lawful.numbers direction
    have given := (flatMap_set_perm (·.ordinals direction) there
      (worker.ordinals_advance act (instruction.next rest act) direction)).map UInt64.toNat
    rw [workers, cell]
    refine given.trans ?_
    rw [List.map_append]
    have counted := Call.ordinal_of_perform performed direction
    rw [reached] at counted
    split at counted
    · next counts =>
      have next : (next.cell.number direction).toNat =
          ((race.world.cellOf worker.handle.cell).number direction).toNat + 1 := by
        rw [counted.2, lawful.number_succ present todo counts]
      rw [next, List.range'_1_concat, counted.1, Option.toList_some, List.map_singleton,
        ← counted.2, next, Nat.add_comm 1]
      exact before.append_right _
    · rw [counted.1, counted.2, Option.toList_none, List.map_nil, List.append_nil]
      exact before
  case wins =>
    have given := (flatMap_set_perm (·.wins) there
      (worker.wins_advance act (instruction.next rest act))).length_eq
    rw [workers, cell]
    refine given.trans ?_
    rw [List.length_append, lawful.wins, List.filter_singleton, win, flag]
    cases (race.world.cellOf worker.handle.cell).ended <;> cases instruction.isSwap <;> rfl
  case late =>
    rw [cell, flag]
    intro raised
    rcases Bool.or_eq_true_iff.1 raised with past | swap
    · exact (lawful.late past).step index
    · refine MessagesDone.step (orderly worker there (by rw [todo]; exact nofun) ?_) index
      refine sound.isEnd_of_isFinal recorded todo ?_
      cases instruction <;> first | rfl | cases swap

/-! ## Runs -/

/-- No end takes a step before every message was handled. -/
def Orderly (handler : Handler) (race : Race) : List Nat → Prop
  | [] => True
  | index :: rest =>
    (∀ worker, race.workers[index]? = some worker → worker.left ≠ [] →
      worker.event.isEnd = true → race.MessagesDone) ∧
    Orderly handler (race.step handler index) rest

theorem Lawful.run (lawful : race.Lawful handler handle)
    (recorded : (handler.call handle).tracking = .recorded identity) {schedule : List Nat}
    (orderly : race.Orderly handler schedule) :
    (race.run handler schedule).Lawful handler handle := by
  induction schedule generalizing race with
  | nil => exact lawful
  | cons index rest ih => exact ih (lawful.step recorded orderly.1) orderly.2

theorem MessagesDone.orderly (done : race.MessagesDone) (handler : Handler)
    (schedule : List Nat) : race.Orderly handler schedule := by
  induction schedule generalizing race with
  | nil => trivial
  | cons index rest ih => exact ⟨fun _ _ _ _ => done, ih (done.step index)⟩

/-- In a schedule, a delivery returns before another one takes its first step. -/
def Precedes (handler : Handler) (race : Race) (schedule : List Nat) (former latter : Nat) : Prop :=
  ∃ first second, schedule = first ++ second ∧
    (∀ worker, (race.run handler first).workers[former]? = some worker → worker.left = []) ∧
    ∀ worker, (race.run handler first).workers[latter]? = some worker → worker.acts = []

/-- A delivery that takes a step has begun ever after. -/
theorem begun_of_step {index : Nat} {worker last : Worker}
    (there : race.workers[index]? = some worker) (todo : worker.left ≠ []) (rest : List Nat)
    (reached : (race.run handler (index :: rest)).workers[index]? = some last) :
    last.acts ≠ [] := by
  intro idle
  obtain ⟨instruction, after, left⟩ := List.exists_cons_of_ne_nil todo
  obtain ⟨found, same, later⟩ := (race.step handler index).later_run handler rest
    (race.step_self handler index there left rfl)
  obtain rfl := Option.some.inj (same.symm.trans reached)
  have begun := later.acts
  rw [idle, List.prefix_nil] at begun
  exact List.append_ne_nil_of_right_ne_nil _ (List.cons_ne_nil _ _) begun

/-- The contract of a transport keeps a race in order. -/
theorem orderly_of_precedes {schedule : List Nat}
    (contract : ∀ {message ending : Nat} {former latter : Worker},
      race.workers[message]? = some former → race.workers[ending]? = some latter →
      former.event.message?.isSome = true → latter.event.isEnd = true →
      race.Precedes handler schedule message ending) : race.Orderly handler schedule := by
  induction schedule generalizing race with
  | nil => trivial
  | cons index rest ih =>
    have now : ∀ worker, race.workers[index]? = some worker → worker.left ≠ [] →
        worker.event.isEnd = true → race.MessagesDone := by
      intro worker there todo ending former present carries
      obtain ⟨place, found⟩ := List.mem_iff_getElem?.1 present
      obtain ⟨first, second, parted, returned, unbegun⟩ := contract found there carries ending
      cases first with
      | nil => exact returned former found
      | cons head first =>
        obtain ⟨rfl, rfl⟩ := List.cons.inj parted
        obtain ⟨last, reached, -⟩ := race.later_run handler (index :: first) there
        exact absurd (unbegun last reached) (begun_of_step there todo first reached)
    refine ⟨now, ?_⟩
    -- Once an end steps all messages are done for good. Before, the contract stays as it is.
    by_cases closing : ∃ worker, race.workers[index]? = some worker ∧ worker.left ≠ [] ∧
        worker.event.isEnd = true
    · obtain ⟨worker, there, todo, ending⟩ := closing
      exact ((now worker there todo ending).step index).orderly handler rest
    · refine ih fun {message ending former latter} found reached carries ends => ?_
      obtain ⟨sender, sends, sent⟩ := race.former_step handler index found
      obtain ⟨closer, closes, closed⟩ := race.former_step handler index reached
      obtain ⟨first, second, parted, returned, unbegun⟩ :=
        contract sends closes (sent.event ▸ carries) (closed.event ▸ ends)
      cases first with
      | nil =>
        refine ⟨[], rest, rfl, fun worker here => ?_, fun worker here => ?_⟩
        · obtain rfl := Option.some.inj (found.symm.trans here)
          have idle := returned sender sends
          rwa [sent.returned idle]
        · obtain rfl := Option.some.inj (reached.symm.trans here)
          by_cases this : index = ending
          · subst this
            have idle : closer.left = [] := by
              by_contra todo
              exact closing ⟨closer, closes, todo, closed.event ▸ ends⟩
            rw [closed.returned idle]
            exact unbegun closer closes
          · rw [race.step_other handler index this] at reached
            exact unbegun latter reached
      | cons head first =>
        obtain ⟨rfl, rfl⟩ := List.cons.inj parted
        exact ⟨first, second, rfl, returned, unbegun⟩

/-- A moment at which every message was handled and no end has begun makes the contract. -/
theorem precedes_of_parted {first : List Nat}
    (parted : ∀ worker ∈ (race.run handler first).workers,
      (worker.event.message?.isSome = true → worker.left = []) ∧
        (worker.event.isEnd = true → worker.acts = [])) (second : List Nat)
    {message ending : Nat} {former latter : Worker} (sends : race.workers[message]? = some former)
    (closes : race.workers[ending]? = some latter)
    (carries : former.event.message?.isSome = true) (ends : latter.event.isEnd = true) :
    race.Precedes handler (first ++ second) message ending := by
  refine ⟨first, second, rfl, fun worker here => ?_, fun worker here => ?_⟩
  · obtain ⟨sender, sent, later⟩ := race.former_run handler first here
    obtain rfl := Option.some.inj (sends.symm.trans sent)
    exact (parted worker (List.mem_of_getElem? here)).1 (later.event ▸ carries)
  · obtain ⟨closer, closed, later⟩ := race.former_run handler first here
    obtain rfl := Option.some.inj (closes.symm.trans closed)
    exact (parted worker (List.mem_of_getElem? here)).2 (later.event ▸ ends)

theorem Orderly.of_append {first second : List Nat}
    (orderly : race.Orderly handler (first ++ second)) :
    race.Orderly handler first ∧ (race.run handler first).Orderly handler second := by
  induction first generalizing race with
  | nil => exact ⟨trivial, orderly⟩
  | cons index rest ih =>
    obtain ⟨before, after⟩ := ih orderly.2
    exact ⟨⟨orderly.1, before⟩, after⟩

theorem events_start (handler : Handler) (world : World) (deliveries : List Delivery) :
    (Race.start handler world deliveries).workers.map (·.event) = deliveries.map (·.event) :=
  List.map_map

theorem events_run (handler : Handler) (race : Race) (schedule : List Nat) :
    (race.run handler schedule).workers.map (·.event) = race.workers.map (·.event) := by
  induction schedule generalizing race with
  | nil => rfl
  | cons index rest ih =>
    exact (ih (race.step handler index)).trans (events_step handler race index)

/-- Before its first step, a delivery through a clone has the whole program of its event ahead. -/
theorem unbegun_start {world : World} {deliveries : List Delivery}
    (clones : ∀ delivery ∈ deliveries, handle.IsClone delivery.handle) :
    ∀ worker ∈ (Race.start handler world deliveries).workers, worker.handle = handle ∧
      worker.left = (handler.call handle).program worker.event ∧ worker.acts = [] := by
  intro worker present
  obtain ⟨delivery, inside, rfl⟩ := List.mem_map.1 present
  have same : delivery.handle = handle := (clones delivery inside).eq
  exact ⟨same, congrArg (fun handle => (handler.call handle).program delivery.event) same, rfl⟩

/-- Before the first step. -/
theorem lawful_start {world : World} {deliveries : List Delivery} (known : world.Knows handle)
    (fresh : world.cellOf handle.cell = .fresh)
    (recorded : (handler.call handle).tracking = .recorded identity)
    (clones : ∀ delivery ∈ deliveries, handle.IsClone delivery.handle)
    (few : ∀ direction,
      (deliveries.map (·.event)).countP (·.carries direction) < 2 ^ 63) :
    (Race.start handler world deliveries).Lawful handler handle := by
  have unbegun := @unbegun_start handler handle world deliveries clones
  have nothing {Value : Type} (give : Worker → List Value)
      (none : ∀ worker : Worker, worker.acts = [] → give worker = []) :
      (Race.start handler world deliveries).workers.flatMap give = [] := by
    exact List.flatMap_eq_nil_iff.2 fun worker present => none worker (unbegun worker present).2.2
  have cell : (Race.start handler world deliveries).world.cellOf handle.cell = .fresh := fresh
  constructor
  case known => exact known
  case clones =>
    exact fun worker present => (unbegun worker present).1
  case few =>
    rw [events_start]
    exact few
  case sound =>
    intro worker present
    obtain ⟨-, left, acts⟩ := unbegun worker present
    refine ⟨fun instruction inside => .inl (left ▸ inside), fun direction => ?_,
      fun won => (won (by rw [Worker.wins, acts, List.filter_nil])).elim, by rw [acts]; exact nofun⟩
    rw [Worker.ordinals, acts, Worker.due, left]
    exact (Nat.zero_add _).trans (Call.countP_program recorded worker.event direction)
  case numbers =>
    intro direction
    rw [cell, nothing (·.ordinals direction) fun worker idle => by
      rw [Worker.ordinals, idle, List.filterMap_nil]]
    cases direction <;> exact .nil
  case wins =>
    rw [cell, nothing (·.wins) fun worker idle => by rw [Worker.wins, idle, List.filter_nil]]
    rfl
  case late =>
    rw [cell]
    exact nofun

/-! ## Ordinals in time -/

/-- A step gives out no ordinal that the counter has reached before. -/
theorem Lawful.ordinals_step (lawful : race.Lawful handler handle) (index : Nat)
    (direction : Direction) :
    (race.world.cellOf handle.cell).number direction ≤
        ((race.step handler index).world.cellOf handle.cell).number direction ∧
      ∀ {place : Nat} {worker later : Worker}, race.workers[place]? = some worker →
        (race.step handler index).workers[place]? = some later →
        ∀ ordinal ∈ later.ordinals direction, ordinal ∈ worker.ordinals direction ∨
          (race.world.cellOf handle.cell).number direction < ordinal := by
  rcases race.step_cases handler index with
    same | ⟨stepped, instruction, rest, act, next, here, todo, performed, step⟩
  · rw [same]
    refine ⟨UInt64.le_refl _, fun there reached ordinal given => .inl ?_⟩
    obtain rfl := Option.some.inj (there.symm.trans reached)
    exact given
  · have present := List.mem_of_getElem? here
    obtain rfl := lawful.clones stepped present
    have counted := Call.ordinal_of_perform performed direction
    have cell : (race.step handler index).world.cellOf stepped.handle.cell = next.cell := by
      rw [step]
      exact race.world.cellOf_commit handler lawful.known _
    change if _ then _ = some ((race.world.cellOf stepped.handle.cell).number direction + 1) ∧
      _ = (race.world.cellOf stepped.handle.cell).number direction + 1 else _ at counted
    have above : (race.world.cellOf stepped.handle.cell).number direction ≤
          next.cell.number direction ∧
        ∀ ordinal ∈ (act.ordinal? direction).toList,
          (race.world.cellOf stepped.handle.cell).number direction < ordinal := by
      split at counted
      · next counts =>
        have less := lawful.number_succ present todo counts
        rw [counted.1, counted.2, Option.toList_some]
        refine ⟨UInt64.le_iff_toNat_le.2 (by omega), fun ordinal given => ?_⟩
        rw [List.mem_singleton.1 given]
        exact UInt64.lt_iff_toNat_lt.2 (by omega)
      · rw [counted.1, counted.2]
        exact ⟨UInt64.le_refl _, nofun⟩
    rw [cell]
    refine ⟨above.1, fun {place worker later} there reached ordinal given => ?_⟩
    rw [step] at reached
    by_cases this : index = place
    · subst this
      obtain rfl := Option.some.inj (here.symm.trans there)
      obtain ⟨inside, -⟩ := List.getElem?_eq_some_iff.1 there
      obtain rfl := Option.some.inj ((List.getElem?_set_self inside).symm.trans reached)
      rw [Worker.ordinals_advance] at given
      exact (List.mem_append.1 given).imp_right (above.2 ordinal)
    · rw [List.getElem?_set_ne this] at reached
      obtain rfl := Option.some.inj (there.symm.trans reached)
      exact .inl given

theorem Lawful.ordinals_run (lawful : race.Lawful handler handle)
    (recorded : (handler.call handle).tracking = .recorded identity) {schedule : List Nat}
    (orderly : race.Orderly handler schedule) (direction : Direction) {place : Nat}
    {worker later : Worker} (there : race.workers[place]? = some worker)
    (reached : (race.run handler schedule).workers[place]? = some later) :
    ∀ ordinal ∈ later.ordinals direction, ordinal ∈ worker.ordinals direction ∨
      (race.world.cellOf handle.cell).number direction < ordinal := by
  induction schedule generalizing race worker with
  | nil =>
    intro ordinal given
    obtain rfl := Option.some.inj (there.symm.trans reached)
    exact .inl given
  | cons index rest ih =>
    intro ordinal given
    obtain ⟨grows, new⟩ := lawful.ordinals_step index direction
    obtain ⟨middle, found, -⟩ := race.later_step handler index there
    rcases ih (lawful.step recorded orderly.1) orderly.2 found reached ordinal given with
      former | above
    · exact new there found ordinal former
    · exact .inr (UInt64.lt_of_le_of_lt grows above)

/-- A message that is handled after another one of its direction gets a greater ordinal. -/
theorem Lawful.ordinal_lt (lawful : race.Lawful handler handle)
    (recorded : (handler.call handle).tracking = .recorded identity) {schedule : List Nat}
    (orderly : race.Orderly handler schedule) {former latter : Nat}
    (precedes : race.Precedes handler schedule former latter) {earlier later : Worker}
    (there : (race.run handler schedule).workers[former]? = some earlier)
    (reached : (race.run handler schedule).workers[latter]? = some later)
    {direction : Direction} {low high : UInt64} (given : low ∈ earlier.ordinals direction)
    (new : high ∈ later.ordinals direction) : low < high := by
  obtain ⟨first, second, rfl, handled, unbegun⟩ := precedes
  obtain ⟨before, after⟩ := orderly.of_append
  have middle := lawful.run recorded before
  rw [run_append] at there reached
  obtain ⟨sender, sends, sent⟩ := (race.run handler first).former_run handler second there
  obtain ⟨taker, takes, -⟩ := (race.run handler first).former_run handler second reached
  -- The first message has its ordinal by then, the second one has none.
  obtain rfl := sent.returned (handled sender sends)
  have reachedBefore : low.toNat ∈ List.range' 1
      (((race.run handler first).world.cellOf handle.cell).number direction).toNat :=
    (middle.numbers direction).mem_iff.1 (List.mem_map_of_mem
      (List.mem_flatMap.2 ⟨earlier, List.mem_of_getElem? sends, given⟩))
  have low := (List.mem_range'_1.1 reachedBefore).2
  rcases middle.ordinals_run recorded after direction takes reached high new with old | above
  · rw [Worker.ordinals, unbegun taker takes] at old
    cases old
  · have high := UInt64.lt_iff_toNat_lt.1 above
    exact UInt64.lt_iff_toNat_lt.2 (by omega)

end Race

/-! ## Ends -/

/-- Steps among those of others, from acts to all acts. A step may find any progress, but the
counters stand at given numbers whenever they are loaded. -/
inductive Call.Leads (call : Call) (numbers : Direction → UInt64) :
    List Instruction → List Act → List Act → Prop
  | done (acts : List Act) : Leads call numbers [] acts acts
  | step {instruction : Instruction} {rest : List Instruction} {acts last : List Act}
      {progress : Progress} :
      (∀ direction, instruction = .loadCount direction →
        progress.cell.number direction = numbers direction) →
      Leads call numbers (instruction.next rest (call.perform acts progress instruction).1)
        (acts ++ [(call.perform acts progress instruction).1]) last →
      Leads call numbers (instruction :: rest) acts last

namespace Call

variable {call : Call} {identity : List Attribute} {numbers : Direction → UInt64}

theorem Leads.nil {acts last : List Act} (leads : call.Leads numbers [] acts last) :
    last = acts := by
  cases leads
  rfl

theorem Leads.cons {instruction : Instruction} {rest : List Instruction} {acts last : List Act}
    (leads : call.Leads numbers (instruction :: rest) acts last) :
    ∃ progress act next, call.perform acts progress instruction = (act, next) ∧
      (∀ direction, instruction = .loadCount direction →
        progress.cell.number direction = numbers direction) ∧
      call.Leads numbers (instruction.next rest act) (acts ++ [act]) last := by
  cases leads with
  | step fits after => exact ⟨_, _, _, rfl, fits, after⟩

/-- What an end does on a recorded call: it comes too late for one of the two looks at the flag, or
it closes the span and measures the call. -/
theorem Leads.of_end (recorded : call.tracking = .recorded identity) {event : Event}
    {completion : Completion} {acts : List Act} (ended : event.occurrence = .ended completion)
    (leads : call.Leads numbers (call.program event) [] acts) :
    let code := (call.role.outcome completion.failure).code.attribute
    let elapsed := (Elapsed.between completion.start completion.stop).toMillis
    acts = [.loadedEnded true, .logged (call.lateEntry event)] ∨
      acts = [.loadedEnded false, .logged (call.dispatchEntry event), .swappedEnded true] ∨
      ∃ exported, acts = [.loadedEnded false, .logged (call.dispatchEntry event),
        .swappedEnded false, .wroteSpan, .wroteSpan, .endedSpan exported,
        .recorded (call.measure .duration (.real elapsed.toBits) (identity ++ [code])),
        .loadedCount .inbound (numbers .inbound), .loadedCount .outbound (numbers .outbound),
        .recorded (call.measure .requestsPerRpc (.count (numbers .inbound)) (identity ++ [code])),
        .recorded (call.measure .responsesPerRpc (.count (numbers .outbound))
          (identity ++ [code]))] := by
  intro code elapsed
  unfold program endProgram summaryProgram closeProgram at leads
  rw [recorded, ended] at leads
  obtain ⟨first, _, _, ⟨⟩, -, leads⟩ := leads.cons
  generalize first.cell.ended = early at leads
  cases early with
  | true =>
    obtain ⟨_, _, _, ⟨⟩, -, leads⟩ := leads.cons
    exact .inl leads.nil
  | false =>
    obtain ⟨_, _, _, ⟨⟩, -, leads⟩ := leads.cons
    obtain ⟨second, _, _, ⟨⟩, -, leads⟩ := leads.cons
    generalize second.cell.ended = late at leads
    cases late with
    | true => exact .inr (.inl leads.nil)
    | false =>
      obtain ⟨_, _, _, ⟨⟩, -, leads⟩ := leads.cons
      obtain ⟨_, _, _, ⟨⟩, -, leads⟩ := leads.cons
      obtain ⟨ending, _, _, ⟨⟩, -, leads⟩ := leads.cons
      obtain ⟨_, _, _, ⟨⟩, -, leads⟩ := leads.cons
      obtain ⟨_, _, _, ⟨⟩, received, leads⟩ := leads.cons
      obtain ⟨_, _, _, ⟨⟩, sent, leads⟩ := leads.cons
      obtain ⟨_, _, _, ⟨⟩, -, leads⟩ := leads.cons
      obtain ⟨_, _, _, ⟨⟩, -, leads⟩ := leads.cons
      refine .inr (.inr ⟨ending.span.exported, leads.nil.trans ?_⟩)
      rw [received .inbound rfl, sent .outbound rfl]
      rfl

/-- An end either wins the flag, closes the span and measures the call, or does nothing of that. In
any case the flag is set. -/
theorem Leads.effect_of_end (recorded : call.tracking = .recorded identity) {worker : Worker}
    {completion : Completion} (ended : worker.event.occurrence = .ended completion)
    (leads : call.Leads numbers (call.program worker.event) [] worker.acts) :
    (∃ act ∈ worker.acts, act.tellsEnd = true) ∧
      (worker.wins = [] ∧ worker.closings = 0 ∧ worker.measurements = [] ∨
        worker.wins ≠ [] ∧ worker.closings = 1 ∧ worker.measurements =
          call.summary completion ⟨true, numbers .inbound, numbers .outbound⟩) := by
  unfold Worker.wins Worker.closings Worker.measurements summary
  rw [recorded]
  rcases leads.of_end recorded ended with acts | acts | ⟨exported, acts⟩
  · rw [acts]
    exact ⟨⟨.loadedEnded true, by simp, rfl⟩, .inl ⟨rfl, rfl, rfl⟩⟩
  · rw [acts]
    exact ⟨⟨.swappedEnded true, by simp, rfl⟩, .inl ⟨rfl, rfl, rfl⟩⟩
  · rw [acts]
    exact ⟨⟨.swappedEnded false, by simp, rfl⟩, .inr ⟨nofun, rfl, rfl⟩⟩

end Call

namespace Race

variable {handler : Handler} {handle : Handle} {race : Race} {identity : List Attribute}

/-- When every message was handled, the counters stand at the numbers of messages. -/
theorem Lawful.number_of_done (lawful : race.Lawful handler handle) (done : race.MessagesDone)
    (direction : Direction) :
    (race.world.cellOf handle.cell).number direction =
      .ofNat ((race.workers.map (·.event)).countP (·.carries direction)) := by
  have idle : ∀ worker ∈ race.workers, worker.due direction = 0 := by
    intro worker present
    cases carried : worker.event.message? with
    | none =>
      have budget := (lawful.sound worker present).budget direction
      rw [Event.carries, carried, Option.any_none, if_neg Bool.false_ne_true] at budget
      omega
    | some message =>
      rw [Worker.due, done worker present (by rw [carried]; rfl), List.countP_nil]
  have nothing : (race.workers.flatMap (·.left)).countP (Instruction.counts direction) = 0 := by
    refine List.countP_eq_zero.2 fun instruction inside => ?_
    obtain ⟨worker, present, inside⟩ := List.mem_flatMap.1 inside
    exact List.countP_eq_zero.1 (idle worker present) instruction inside
  have total := length_add_countP lawful.sound direction
  have number := (lawful.numbers direction).length_eq
  rw [List.length_map, List.length_range'] at number
  rw [← total, nothing, Nat.add_zero, number, UInt64.ofNat_toNat]

/-- A delivery that returns has gone through its program. -/
theorem Lawful.leads (lawful : race.Lawful handler handle)
    (recorded : (handler.call handle).tracking = .recorded identity) {schedule : List Nat}
    (orderly : race.Orderly handler schedule) {place : Nat} {worker last : Worker}
    (there : race.workers[place]? = some worker)
    (reached : (race.run handler schedule).workers[place]? = some last)
    (returned : last.left = []) :
    (handler.call handle).Leads
      (fun direction => .ofNat ((race.workers.map (·.event)).countP (·.carries direction)))
      worker.left worker.acts last.acts := by
  induction schedule generalizing race worker with
  | nil =>
    obtain rfl := Option.some.inj (there.symm.trans reached)
    rw [returned]
    exact .done _
  | cons index rest ih =>
    have onward {later : Worker}
        (found : (race.step handler index).workers[place]? = some later) :=
      ih (lawful.step recorded orderly.1) orderly.2 found reached
    rw [events_step] at onward
    rcases race.step_cases handler index with
      same | ⟨stepped, instruction, after, act, next, here, todo, performed, step⟩
    · exact onward (by rwa [same])
    by_cases this : index = place
    · subst this
      obtain rfl := Option.some.inj (here.symm.trans there)
      obtain rfl := lawful.clones stepped (List.mem_of_getElem? here)
      have further := onward (race.step_self handler index there todo performed)
      obtain rfl : ((handler.call stepped.handle).perform stepped.acts
          (race.world.progressOf stepped.handle) instruction).1 = act := by
        rw [performed]
      rw [todo]
      refine .step (fun direction load => ?_) further
      have ending := (lawful.sound stepped (List.mem_of_getElem? here)).isEnd_of_isFinal recorded
        todo (load ▸ rfl)
      exact lawful.number_of_done (orderly.1 stepped there (todo ▸ nofun) ending) direction
    · refine onward ?_
      rw [step]
      exact (List.getElem?_set_ne this).trans there

/-- When all deliveries have returned, one end has closed the span and measured the call. -/
theorem Lawful.exists_sole_closing (lawful : race.Lawful handler handle)
    (recorded : (handler.call handle).tracking = .recorded identity) {schedule : List Nat}
    (orderly : race.Orderly handler schedule)
    (unbegun : ∀ worker ∈ race.workers,
      worker.left = (handler.call handle).program worker.event ∧ worker.acts = [])
    (returned : ∀ worker ∈ (race.run handler schedule).workers, worker.left = [])
    (ending : ∃ worker ∈ (race.run handler schedule).workers, worker.event.isEnd = true) :
    let number direction := UInt64.ofNat
      ((race.workers.map (·.event)).countP (·.carries direction))
    ∃ before winner after completion,
      (race.run handler schedule).workers = before ++ winner :: after ∧
        winner.event.occurrence = .ended completion ∧ winner.closings = 1 ∧
        winner.measurements = (handler.call handle).summary completion
          ⟨true, number .inbound, number .outbound⟩ ∧
        ∀ other ∈ before ++ after, other.event.isEnd = true →
          other.closings = 0 ∧ other.measurements = [] := by
  intro number
  have final := lawful.run recorded orderly
  have effect {worker : Worker} (present : worker ∈ (race.run handler schedule).workers)
      (ends : worker.event.isEnd = true) :
      ∃ completion, worker.event.occurrence = .ended completion ∧
        (∃ act ∈ worker.acts, act.tellsEnd = true) ∧
        (worker.wins = [] ∧ worker.closings = 0 ∧ worker.measurements = [] ∨
          worker.wins ≠ [] ∧ worker.closings = 1 ∧ worker.measurements =
            (handler.call handle).summary completion
              ⟨true, number .inbound, number .outbound⟩) := by
    rw [Event.isEnd_eq_isSome] at ends
    obtain ⟨completion, ended⟩ := Option.isSome_iff_exists.1 ends
    have ended := Event.occurrence_of_completion? ended
    obtain ⟨place, reached⟩ := List.mem_iff_getElem?.1 present
    obtain ⟨former, there, later⟩ := race.former_run handler schedule reached
    have leads := lawful.leads recorded orderly there reached (returned worker present)
    obtain ⟨left, acts⟩ := unbegun former (List.mem_of_getElem? there)
    rw [left, acts, ← later.event] at leads
    exact ⟨completion, ended, leads.effect_of_end recorded ended⟩
  have flagged : ((race.run handler schedule).world.cellOf handle.cell).ended = true := by
    obtain ⟨worker, present, ends⟩ := ending
    obtain ⟨-, -, ⟨act, inside, tells⟩, -⟩ := effect present ends
    exact (final.sound worker present).told act inside tells
  have one := final.wins
  rw [flagged, if_pos rfl] at one
  obtain ⟨before, winner, after, parted, won, lost⟩ := exists_sole one
  have present : winner ∈ (race.run handler schedule).workers := by
    rw [parted]
    exact List.mem_append_right _ List.mem_cons_self
  obtain ⟨completion, ended, -, ⟨none, -⟩ | ⟨-, closing, measured⟩⟩ :=
    effect present ((final.sound winner present).winner won)
  · exact absurd none won
  refine ⟨before, winner, after, completion, parted, ended, closing, measured, ?_⟩
  intro other inside ends
  have present : other ∈ (race.run handler schedule).workers := by
    rw [parted]
    exact List.mem_append.2 ((List.mem_append.1 inside).imp_right (List.mem_cons_of_mem _))
  obtain ⟨-, -, -, ⟨-, silent⟩ | ⟨wins, -⟩⟩ := effect present ends
  · exact silent
  · exact absurd (lost other inside) wins

end Race

namespace World

/-- A tagged call with deliveries that have not begun yet. -/
def race (world : World) (handler : Handler) (parent : Context) (rpc : CallContext)
    (info : CallInfo) (deliveries : List Delivery) : Race :=
  .start handler (world.tag handler parent rpc info).1 deliveries

variable {world : World} {handler : Handler} {parent : Context} {rpc : CallContext}
  {info : CallInfo}

/-- Messages and ends of a recorded call are delivered at the same time, under the contract of the
transport. When all have returned, the ordinals in a direction are those from 1 to the number of
its messages, one for each, and they grow with time; and one end has closed the span and measured
the call, with these numbers, while the other ends have done nothing of that. -/
theorem counted_without_gaps (accepted : handler.records info = true) {deliveries : List Delivery}
    (clones : ∀ delivery ∈ deliveries,
      (world.tag handler parent rpc info).2.IsClone delivery.handle)
    (few : ∀ direction, (deliveries.map (·.event)).countP (·.carries direction) < 2 ^ 63)
    (ending : ∃ delivery ∈ deliveries, delivery.event.isEnd = true) {schedule : List Nat}
    (contract : ∀ {message ending : Nat} {former latter : Delivery},
      deliveries[message]? = some former → deliveries[ending]? = some latter →
      former.event.message?.isSome = true → latter.event.isEnd = true →
      (world.race handler parent rpc info deliveries).Precedes handler schedule message ending)
    (returned : ∀ worker ∈
      ((world.race handler parent rpc info deliveries).run handler schedule).workers,
      worker.left = []) :
    let race := world.race handler parent rpc info deliveries
    let workers := (race.run handler schedule).workers
    let number direction := (deliveries.map (·.event)).countP (·.carries direction)
    workers.map (·.event) = deliveries.map (·.event) ∧
      (∀ direction,
        ((workers.flatMap (·.ordinals direction)).map UInt64.toNat).Perm
          (List.range' 1 (number direction)) ∧
        ∀ worker ∈ workers, (worker.ordinals direction).length =
          if worker.event.carries direction then 1 else 0) ∧
      (∀ {former latter : Nat}, race.Precedes handler schedule former latter →
        ∀ {earlier later : Worker}, workers[former]? = some earlier →
          workers[latter]? = some later → ∀ direction,
            ∀ low ∈ earlier.ordinals direction, ∀ high ∈ later.ordinals direction, low < high) ∧
      ∃ before winner after completion, workers = before ++ winner :: after ∧
        winner.event.occurrence = .ended completion ∧ winner.closings = 1 ∧
        winner.measurements = (handler.call (world.tag handler parent rpc info).2).summary
          completion ⟨true, .ofNat (number .inbound), .ofNat (number .outbound)⟩ ∧
        ∀ other ∈ before ++ after, other.event.isEnd = true →
          other.closings = 0 ∧ other.measurements = [] := by
  intro race workers number
  have recorded := world.tracking_call_tag handler parent rpc info accepted
  have lawful : race.Lawful handler (world.tag handler parent rpc info).2 :=
    Race.lawful_start (world.knows_tag handler parent rpc info)
      (world.cellOf_tag handler parent rpc info) recorded clones few
  have started {place : Nat} {worker : Worker} (there : race.workers[place]? = some worker) :
      ∃ delivery, deliveries[place]? = some delivery ∧ Worker.start handler delivery = worker := by
    rw [← Option.map_eq_some_iff, ← List.getElem?_map]
    exact there
  have orderly : race.Orderly handler schedule := by
    refine Race.orderly_of_precedes fun sends closes carries ends => ?_
    obtain ⟨former, sent, rfl⟩ := started sends
    obtain ⟨latter, closed, rfl⟩ := started closes
    exact contract sent closed carries ends
  have final := lawful.run recorded orderly
  have events : workers.map (·.event) = deliveries.map (·.event) :=
    (Race.events_run handler race schedule).trans (Race.events_start handler _ deliveries)
  refine ⟨events, fun direction => ⟨?_, ?_⟩, ?_, ?_⟩
  · have counted := final.number_of_done (fun worker present _ => returned worker present) direction
    have numbers := final.numbers direction
    rw [counted, show (race.run handler schedule).workers.map (·.event) = _ from events,
      UInt64.toNat_ofNat_of_lt' (Nat.lt_trans (few direction) (by decide))] at numbers
    exact numbers
  · intro worker present
    have budget := (final.sound worker present).budget direction
    rwa [Worker.due, returned worker present] at budget
  · intro former latter precedes earlier later there reached direction low given high new
    exact lawful.ordinal_lt recorded orderly precedes there reached given new
  · have closing := lawful.exists_sole_closing recorded orderly
      (fun worker present => (Race.unbegun_start clones worker present).2) returned ?_
    · rwa [show race.workers.map (·.event) = _ from Race.events_start handler _ deliveries]
        at closing
    · obtain ⟨delivery, inside, ends⟩ := ending
      have reported : delivery.event ∈ workers.map (·.event) := by
        rw [events]
        exact List.mem_map_of_mem inside
      obtain ⟨worker, present, same⟩ := List.mem_map.1 reported
      exact ⟨worker, present, by rw [same]; exact ends⟩

end World

/-! ## A sample race -/

namespace Sample

/-- A message of seven bytes that goes out. -/
def response : Event := ⟨false, .message .outbound ⟨none, 7, 7, 12⟩⟩

/-- Two messages that come in, one that goes out, and two ends. -/
def raced : List Delivery :=
  [⟨handle, request⟩, ⟨handle.clone, request⟩, ⟨handle, response⟩,
    ⟨handle.clone, ⟨false, .ended success⟩⟩, ⟨handle, ⟨false, .ended success⟩⟩]

theorem isClone_of_mem_raced : ∀ delivery ∈ raced, handle.IsClone delivery.handle := by
  simp only [raced, List.forall_mem_cons]
  exact ⟨.self, .clone .self, .self, .clone .self, .self,
    fun _ none => absurd none List.not_mem_nil⟩

/-- The messages take turns; the second one counts first. -/
def opening : List Nat := [1, 0, 2, 1, 0, 2, 1, 0, 2, 1, 0, 2, 1, 0, 2]

/-- Both ends find the flag unset, then the second one is faster to set it. -/
def closing : List Nat := [3, 4, 3, 4, 4, 3, 4, 4, 4, 4, 4, 4, 4, 4]

end Sample

/-- The end that counts finds two requests and one response. -/
theorem World.counted_in_sample_race :
    let race := Sample.world.race Sample.server .empty Sample.rpc Sample.info Sample.raced
    let workers := (race.run Sample.server (Sample.opening ++ Sample.closing)).workers
    ((workers.flatMap (·.ordinals .inbound)).map UInt64.toNat).Perm [1, 2] ∧
      ∃ before winner after, workers = before ++ winner :: after ∧ winner.closings = 1 ∧
        (winner.measurements.drop 1).map (·.value) = [.count 2, .count 1] := by
  intro race workers
  have halfway : (race.run Sample.server Sample.opening).workers.all (fun worker =>
      (!worker.event.message?.isSome || worker.left.isEmpty) &&
        (!worker.event.isEnd || worker.acts.isEmpty)) = true := by decide +kernel
  have parted : ∀ worker ∈ (race.run Sample.server Sample.opening).workers,
      (worker.event.message?.isSome = true → worker.left = []) ∧
        (worker.event.isEnd = true → worker.acts = []) := by
    intro worker present
    have both := List.all_eq_true.1 halfway worker present
    simp only [Bool.and_eq_true, Bool.or_eq_true, Bool.not_eq_true', List.isEmpty_iff] at both
    refine ⟨fun carries => both.1.resolve_left ?_, fun ends => both.2.resolve_left ?_⟩
    · rw [carries]
      exact nofun
    · rw [ends]
      exact nofun
  have contract : ∀ {message ending : Nat} {former latter : Delivery},
      Sample.raced[message]? = some former → Sample.raced[ending]? = some latter →
      former.event.message?.isSome = true → latter.event.isEnd = true →
      race.Precedes Sample.server (Sample.opening ++ Sample.closing) message ending := by
    intro message ending former latter sends closes carries ends
    have begun {place : Nat} {delivery : Delivery} (there : Sample.raced[place]? = some delivery) :
        race.workers[place]? = some (.start Sample.server delivery) :=
      List.getElem?_map.trans (congrArg (Option.map (Worker.start Sample.server)) there)
    exact Race.precedes_of_parted parted Sample.closing (begun sends) (begun closes) carries ends
  have idle : workers.all (·.left.isEmpty) = true := by decide +kernel
  have returned : ∀ worker ∈ workers, worker.left = [] := fun worker present =>
    List.isEmpty_iff.1 (List.all_eq_true.1 idle worker present)
  obtain ⟨-, numbers, -, before, winner, after, completion, split, -, closed, measured, -⟩ :=
    @counted_without_gaps Sample.world Sample.server .empty Sample.rpc Sample.info rfl Sample.raced
      Sample.isClone_of_mem_raced (fun direction => by cases direction <;> decide)
      ⟨⟨Sample.handle, ⟨false, .ended Sample.success⟩⟩, by simp [Sample.raced], rfl⟩
      (Sample.opening ++ Sample.closing) contract returned
  refine ⟨(numbers .inbound).1, before, winner, after, split, closed, ?_⟩
  rw [measured]
  rfl

end RpcTelemetry
