import RpcTelemetry.Proofs.World.Delivery

/-!
# Deliveries at the same time

`Call.deliver` handles an event in one go. Beside other deliveries through clones of the handle it
is a program of atomic steps (`Call.program`): each one looks at, or changes, the end flag, one of
the two counters, the meter or the span. A `Race` is a world with the deliveries that are under way
in it, and a schedule tells which of them takes the next step.

Main statement: `Race.exists_run_alone`. A delivery that nobody interrupts is `World.deliver`.
-/

namespace RpcTelemetry

/-- An atomic step in the handling of an event. -/
inductive Instruction where
  | log (entry : Log.Entry)
  /-- Looks at the end flag. If it is set, nothing is left but to log the late event. -/
  | loadEnded (late : Log.Entry)
  /-- Sets the end flag. If it was set before, nothing is left to do. -/
  | swapEnded
  | count (direction : Direction)
  | record (measurement : Measurement)
  /-- Adds the event of a message to the span, under the ordinal that counting has given. -/
  | addMessage (direction : Direction) (message : Message)
  | setAttribute (added : Attribute)
  | setStatus (status : SpanStatus)
  | endSpan
  | loadCount (direction : Direction)
  /-- Records a number of messages as it was loaded. -/
  | recordCount (direction : Direction) (attributes : List Attribute)

/-- What an atomic step has found and done. -/
inductive Act where
  | logged (entry : Log.Entry)
  | loadedEnded (past : Bool)
  | swappedEnded (past : Bool)
  | counted (direction : Direction) (ordinal : UInt64)
  | recorded (measurement : Measurement)
  | wroteSpan
  | endedSpan (exported : List SpanData)
  | loadedCount (direction : Direction) (number : UInt64)

namespace Act

def output : Act → Output
  | .logged entry => .ofLogs [entry]
  | .recorded measurement => ⟨[], [measurement], []⟩
  | .endedSpan exported => ⟨exported, [], []⟩
  | _ => .none

def outputs : List Act → Output
  | [] => .none
  | act :: rest => act.output ++ outputs rest

def ordinal? (direction : Direction) : Act → Option UInt64
  | .counted other ordinal => if other = direction then some ordinal else none
  | _ => none

def number? (direction : Direction) : Act → Option UInt64
  | .loadedCount other number => if other = direction then some number else none
  | _ => none

end Act

/-- The number of messages that a cell has counted in a direction. -/
def Cell.number (cell : Cell) : Direction → UInt64
  | .inbound => cell.received
  | .outbound => cell.sent

/-- The instrument for the number of messages in a direction. -/
def Direction.countSpec : Direction → InstrumentSpec
  | .inbound => .requestsPerRpc
  | .outbound => .responsesPerRpc

/-- What is left to do after an act. -/
def Instruction.next (rest : List Instruction) : Instruction → Act → List Instruction
  | .loadEnded late, .loadedEnded true => [.log late]
  | .swapEnded, .swappedEnded true => []
  | _, _ => rest

namespace Call

variable (call : Call)

/-- Takes an atomic step. What a delivery keeps in its local variables is found among its former
acts. -/
def perform (acts : List Act) (progress : Progress) : Instruction → Act × Progress
  | .log entry => (.logged entry, progress)
  | .loadEnded _ => (.loadedEnded progress.cell.ended, progress)
  | .swapEnded =>
    (.swappedEnded progress.cell.ended,
      { progress with cell := { progress.cell with ended := true } })
  | .count direction =>
    let (ordinal, cell) := progress.cell.count direction
    (.counted direction ordinal, { progress with cell })
  | .record measurement => (.recorded measurement, progress)
  | .addMessage direction message =>
    let ordinal := (acts.findSome? (Act.ordinal? direction)).getD 0
    (.wroteSpan, { progress with
      span := progress.span.addMessage direction ordinal message
        (Payload.text message.payload).1 })
  | .setAttribute added =>
    (.wroteSpan, { progress with span := progress.span.setAttribute added })
  | .setStatus status => (.wroteSpan, { progress with span := progress.span.setStatus status })
  | .endSpan =>
    (.endedSpan progress.span.exported, { progress with span := progress.span.finish })
  | .loadCount direction => (.loadedCount direction (progress.cell.number direction), progress)
  | .recordCount direction attributes =>
    let number := (acts.findSome? (Act.number? direction)).getD 0
    (.recorded (call.measure direction.countSpec (.count number) attributes), progress)

/-! ## Programs -/

def messageProgram (direction : Direction) (message : Message) : List Instruction :=
  let counting : List Instruction := match call.tracking with
    | .recorded identity =>
      [.count direction,
        .record (call.measure direction.sizeSpec (.count message.length) identity)]
    | _ => []
  counting ++ (Payload.text message.payload).2.map .log ++ [.addMessage direction message]

def headerProgram : List Instruction :=
  match call.peer with
  | none => []
  | some peer => peer.attributes.2.map .log ++ peer.attributes.1.map .setAttribute

def closeProgram (completion : Completion) : List Instruction :=
  let outcome := call.role.outcome completion.failure
  [.setAttribute outcome.code.attribute, .setStatus outcome.status, .endSpan]

def summaryProgram (completion : Completion) : List Instruction :=
  let code := (call.role.outcome completion.failure).code.attribute
  let elapsed := (Elapsed.between completion.start completion.stop).toMillis
  let duration (attributes : List Attribute) : Instruction :=
    .record (call.measure .duration (.real elapsed.toBits) attributes)
  match call.tracking with
  | .recorded identity =>
    let attributes := identity ++ [code]
    [duration attributes, .loadCount .inbound, .loadCount .outbound,
      .recordCount .inbound attributes, .recordCount .outbound attributes]
  | .filtered _ => []
  | .detached => [duration [code]]

def endProgram (completion : Completion) : List Instruction :=
  let entries := if call.tracking = .detached then [call.uncountedEntry] else []
  .swapEnded :: (entries.map .log ++ (call.closeProgram completion ++
    call.summaryProgram completion))

/-- The steps in the handling of an event, as long as no end comes first. -/
def program (event : Event) : List Instruction :=
  match call.tracking with
  | .filtered _ =>
    match event.occurrence with
    | .ended completion => .swapEnded :: call.closeProgram completion
    | _ => []
  | _ =>
    .loadEnded (call.lateEntry event) :: .log (call.dispatchEntry event) ::
      match event.occurrence with
      | .message direction message => call.messageProgram direction message
      | .header .outbound _ => call.headerProgram
      | .ended completion => call.endProgram completion
      | _ => []

end Call

/-- A delivery that is under way: what it has left to do and what it has done. -/
structure Worker where
  handle : Handle
  event : Event
  left : List Instruction
  acts : List Act

/-- A delivery before its first step. -/
def Worker.start (handler : Handler) (delivery : Delivery) : Worker :=
  ⟨delivery.handle, delivery.event, (handler.call delivery.handle).program delivery.event, []⟩

/-- A delivery after a further act. -/
def Worker.advance (worker : Worker) (act : Act) (left : List Instruction) : Worker :=
  { worker with left, acts := worker.acts ++ [act] }

/-- Takes the next step of a delivery, if there is one. -/
def Worker.step (handler : Handler) (worker : Worker) (world : World) : World × Worker :=
  match worker.left with
  | [] => (world, worker)
  | instruction :: rest =>
    let (act, progress) := (handler.call worker.handle).perform worker.acts
      (world.progressOf worker.handle) instruction
    (world.commit handler worker.handle (progress, act.output),
      worker.advance act (instruction.next rest act))

/-- A world and the deliveries that are under way in it. -/
structure Race where
  world : World
  workers : List Worker

namespace Race

def start (handler : Handler) (world : World) (deliveries : List Delivery) : Race :=
  ⟨world, deliveries.map (Worker.start handler)⟩

/-- Lets one of the deliveries take a step. -/
def step (handler : Handler) (race : Race) (index : Nat) : Race :=
  match race.workers[index]? with
  | none => race
  | some worker =>
    let (world, worker) := worker.step handler race.world
    ⟨world, race.workers.set index worker⟩

/-- Lets deliveries take steps in the order of a schedule. -/
def run (handler : Handler) (race : Race) (schedule : List Nat) : Race :=
  schedule.foldl (step handler) race

end Race

/-! ## A delivery alone -/

namespace Call

variable (call : Call)

/-- Steps that nobody interrupts, from acts and a progress on: the progress that they lead to and
what they give out. -/
inductive Runs : List Instruction → List Act → Progress → Progress → Output → Prop
  | done (acts : List Act) (progress : Progress) : Runs [] acts progress progress .none
  | step {instruction : Instruction} {rest : List Instruction} {acts : List Act} {act : Act}
      {progress next last : Progress} {output : Output} :
      call.perform acts progress instruction = (act, next) →
      Runs (instruction.next rest act) (acts ++ [act]) next last output →
      Runs (instruction :: rest) acts progress last (act.output ++ output)

variable {call} {rest : List Instruction} {acts : List Act} {progress last : Progress}
  {output : Output}

theorem Runs.of_eq {program : List Instruction} {otherLast : Progress} {otherOutput : Output}
    (runs : call.Runs program acts progress last output) (sameLast : last = otherLast)
    (sameOutput : output = otherOutput) :
    call.Runs program acts progress otherLast otherOutput :=
  sameLast ▸ sameOutput ▸ runs

theorem Runs.logs {entries : List Log.Entry}
    (after : call.Runs rest (acts ++ entries.map .logged) progress last output) :
    call.Runs (entries.map .log ++ rest) acts progress last (.ofLogs entries ++ output) := by
  induction entries generalizing acts with
  | nil => rwa [List.map_nil, List.append_nil] at after
  | cons entry more ih =>
    rw [List.map_cons, List.cons_append]
    refine .of_eq (.step rfl (ih ?_)) rfl rfl
    rwa [List.append_assoc]

theorem Runs.attributes {added : List Attribute}
    (after : call.Runs rest (acts ++ added.map fun _ => .wroteSpan)
      { progress with span := progress.span.setAttributes added } last output) :
    call.Runs (added.map .setAttribute ++ rest) acts progress last output := by
  induction added generalizing acts progress with
  | nil => rwa [List.map_nil, List.append_nil] at after
  | cons first more ih =>
    rw [List.map_cons, List.cons_append]
    refine .of_eq (.step rfl (ih ?_)) rfl rfl
    rwa [List.append_assoc]

theorem perform_swapEnded {past : Bool} (flag : progress.cell.ended = past) :
    call.perform acts progress .swapEnded =
      (.swappedEnded past, { progress with cell := { progress.cell with ended := true } }) := by
  rw [← flag]
  rfl

theorem perform_swapEnded_again (past : progress.cell.ended = true) :
    call.perform acts progress .swapEnded = (.swappedEnded true, progress) := by
  obtain ⟨⟨ended, received, sent⟩, span⟩ := progress
  cases past
  rfl

theorem perform_loadEnded {past : Bool} (flag : progress.cell.ended = past) (late : Log.Entry) :
    call.perform acts progress (.loadEnded late) = (.loadedEnded past, progress) := by
  rw [← flag]
  rfl

theorem runs_message (direction : Direction) (message : Message)
    (uncounted : ∀ act ∈ acts, act.ordinal? direction = none) :
    call.Runs (call.messageProgram direction message) acts progress
      (call.deliverMessage direction message progress).1
      (call.deliverMessage direction message progress).2 := by
  have before := List.findSome?_eq_none_iff.2 uncounted
  have logged (entries : List Log.Entry) :
      (entries.map Act.logged).findSome? (Act.ordinal? direction) = none := by
    rw [List.findSome?_map]
    exact List.findSome?_eq_none_iff.2 fun _ _ => rfl
  have nothing (logs : List Log.Entry) : Output.ofLogs logs ++ .none = ⟨[], [], logs⟩ :=
    Output.append_none _
  unfold messageProgram deliverMessage number
  cases call.tracking with
  | recorded identity =>
    refine .of_eq (.step rfl (.step rfl (.logs (.step rfl (.done _ _))))) ?_ ?_
    · simp only [List.findSome?_append, before, List.findSome?_cons, Act.ordinal?, if_pos,
        Option.none_or, Option.some_or, Option.getD_some]
      rfl
    · exact congrArg (Output.append ⟨[], [_], []⟩) (nothing (Payload.text message.payload).2)
  | _ =>
    refine .of_eq (.logs (.step rfl (.done _ _))) ?_ (nothing _)
    simp only [List.findSome?_append, before, logged, Option.none_or, Option.getD_none]

theorem runs_header :
    call.Runs call.headerProgram acts progress (call.deliverHeader progress).1
      (call.deliverHeader progress).2 := by
  unfold headerProgram deliverHeader
  cases call.peer with
  | none => exact .done acts progress
  | some peer =>
    have written : call.Runs [] (acts ++ peer.attributes.2.map .logged ++
        peer.attributes.1.map fun _ => .wroteSpan)
        { progress with span := progress.span.setAttributes peer.attributes.1 } _ _ :=
      .done _ _
    have attributes := written.attributes
    rw [List.append_nil] at attributes
    exact attributes.logs.of_eq rfl (Output.append_none _)

/-- The span is given its outcome in two steps and ended in a third one. -/
theorem Runs.close {completion : Completion} {concluded : Span}
    (outcome : concluded = progress.span.conclude (call.role.outcome completion.failure))
    (after : call.Runs rest (acts ++ [.wroteSpan, .wroteSpan, .endedSpan concluded.exported])
      { progress with span := concluded.finish } last output) :
    call.Runs (call.closeProgram completion ++ rest) acts progress last
      (⟨concluded.exported, [], []⟩ ++ output) := by
  subst outcome
  refine .of_eq (.step rfl (.step rfl (.step rfl ?_))) rfl rfl
  rwa [List.append_assoc, List.append_assoc]

theorem runs_summary {completion : Completion}
    (unloaded : ∀ act ∈ acts, ∀ direction, act.number? direction = none) :
    call.Runs (call.summaryProgram completion) acts progress progress
      ⟨[], call.summary completion progress.cell, []⟩ := by
  have before (direction : Direction) : acts.findSome? (Act.number? direction) = none :=
    List.findSome?_eq_none_iff.2 fun act present => unloaded act present direction
  unfold summaryProgram summary
  cases call.tracking with
  | recorded identity =>
    refine .of_eq (.step rfl (.step rfl (.step rfl (.step rfl (.step rfl (.done _ _)))))) rfl ?_
    simp [List.findSome?_append, before]
    rfl
  | filtered identity => exact .done acts progress
  | detached => exact .of_eq (.step rfl (.done _ _)) rfl rfl

theorem runs_end {completion : Completion} (isOpen : progress.cell.ended = false)
    (unloaded : ∀ act ∈ acts, ∀ direction, act.number? direction = none) :
    call.Runs (call.endProgram completion) acts progress
      (call.deliverEnd completion progress).1 (call.deliverEnd completion progress).2 := by
  refine .of_eq (.step (perform_swapEnded isOpen) (.logs (.close rfl (runs_summary ?_)))) rfl ?_
  · simp only [List.mem_append, List.mem_map, List.mem_cons]
    rintro act (((old | rfl | nil) | ⟨entry, -, rfl⟩) | rfl | rfl | rfl | nil) direction
    · exact unloaded act old direction
    all_goals first | rfl | cases nil
  · show Output.mk _ _ _ = Output.mk _ _ _
    simp [Act.output, Output.ofLogs, Output.none]
    rfl

/-- A delivery that takes its steps alone does what `Call.deliver` does. -/
theorem runs_program (event : Event) :
    call.Runs (call.program event) [] progress (call.deliver event progress).1
      (call.deliver event progress).2 := by
  obtain ⟨client, occurrence⟩ := event
  unfold program deliver deliverFiltered deliverLive
  cases call.tracking with
  | filtered identity =>
    cases occurrence with
    | ended completion =>
      cases flag : progress.cell.ended with
      | true => exact .of_eq (.step (perform_swapEnded_again flag) (.done _ _)) rfl rfl
      | false =>
        have closed : call.Runs (call.closeProgram completion ++ []) [.swappedEnded false]
            { progress with cell := { progress.cell with ended := true } } _ _ :=
          .close rfl (.done _ _)
        rw [List.append_nil, Output.append_none] at closed
        exact .of_eq (.step (perform_swapEnded flag) closed) rfl rfl
    | _ => exact .done _ _
  | _ =>
    cases flag : progress.cell.ended with
    | true => exact .of_eq (.step (perform_loadEnded flag _) (.step rfl (.done _ _))) rfl rfl
    | false =>
      refine .of_eq (.step (perform_loadEnded flag _) (.step rfl ?_)) rfl rfl
      cases occurrence with
      | message direction message => exact runs_message direction message (by simp [Act.ordinal?])
      | header direction metadata =>
        cases direction with
        | inbound => exact .done _ _
        | outbound => exact runs_header
      | ended completion => exact runs_end flag (by simp [Act.number?])
      | began => exact .done _ _
      | trailer direction metadata => exact .done _ _

/-- No step changes a span that is over. -/
theorem span_perform_of_over (past : progress.span.data = none) (instruction : Instruction) :
    (call.perform acts progress instruction).2.span = progress.span := by
  cases instruction with
  | addMessage direction message => exact Span.addEvent_of_over past _ _
  | setAttribute added => exact Span.setAttribute_of_over past added
  | setStatus status => exact Span.setStatus_of_over past status
  | endSpan => exact Span.finish_of_over past
  | _ => rfl

end Call

namespace Race

variable (handler : Handler) (race : Race) {worker : Worker} {index : Nat}

theorem run_append (first second : List Nat) :
    race.run handler (first ++ second) = (race.run handler first).run handler second :=
  List.foldl_append

theorem step_of_instruction {instruction : Instruction} {rest : List Instruction} {act : Act}
    {next : Progress} (there : race.workers[index]? = some worker)
    (left : worker.left = instruction :: rest)
    (performed : (handler.call worker.handle).perform worker.acts
      (race.world.progressOf worker.handle) instruction = (act, next)) :
    race.step handler index = ⟨race.world.commit handler worker.handle (next, act.output),
      race.workers.set index (worker.advance act (instruction.next rest act))⟩ := by
  simp only [step, there, Worker.step, left, performed]

/-- Steps that nobody interrupts, taken in a world. -/
theorem exists_run_of_runs {last : Progress} {output : Output}
    (known : race.world.Knows worker.handle) (there : race.workers[index]? = some worker)
    (runs : (handler.call worker.handle).Runs worker.left worker.acts
      (race.world.progressOf worker.handle) last output) :
    ∃ steps acts, race.run handler (List.replicate steps index) =
      ⟨race.world.commit handler worker.handle (last, output),
        race.workers.set index { worker with left := [], acts := acts }⟩ := by
  obtain ⟨handle, event, left, acts⟩ := worker
  dsimp only at known there runs ⊢
  obtain ⟨inside, found⟩ := List.getElem?_eq_some_iff.1 there
  generalize progressed : race.world.progressOf handle = progress at runs
  induction runs generalizing race with
  | done acts progress =>
    refine ⟨0, acts, ?_⟩
    subst progressed
    rw [World.commit_unchanged, ← found, List.set_getElem_self]
    rfl
  | @step instruction rest acts act progress next last output performed after ih =>
    subst progressed
    let stepped : Race := ⟨race.world.commit handler handle (next, act.output),
      race.workers.set index ⟨handle, event, instruction.next rest act, acts ++ [act]⟩⟩
    have first : race.step handler index = stepped :=
      race.step_of_instruction handler there rfl performed
    have progressed : stepped.world.progressOf handle = next := by
      refine race.world.progressOf_commit handler known _ fun past => ?_
      have kept : ((handler.call handle).perform acts (race.world.progressOf handle)
          instruction).2.span = race.world.spanOf handle.context :=
        Call.span_perform_of_over past instruction
      rwa [performed] at kept
    have still : index < stepped.workers.length := by
      rwa [List.length_set]
    obtain ⟨steps, finalActs, ran⟩ := ih stepped (race.world.knows_commit handler _ known)
      (List.getElem?_set_self inside) still (List.getElem_set_self still) progressed
    refine ⟨steps + 1, finalActs, ?_⟩
    show (race.step handler index).run handler (List.replicate steps index) = _
    rw [first, ran]
    simp only [stepped, World.commit_commit, List.set_set]

/-- A delivery that nobody interrupts is `World.deliver`. -/
theorem exists_run_alone {delivery : Delivery} (known : race.world.Knows delivery.handle)
    (there : race.workers[index]? = some (.start handler delivery)) :
    ∃ steps acts, race.run handler (List.replicate steps index) =
      ⟨race.world.deliver handler delivery.handle delivery.event,
        race.workers.set index ⟨delivery.handle, delivery.event, [], acts⟩⟩ :=
  race.exists_run_of_runs handler known there (Call.runs_program delivery.event)

end Race

end RpcTelemetry
