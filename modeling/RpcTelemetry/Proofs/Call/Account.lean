import RpcTelemetry.Proofs.Call.Run
import RpcTelemetry.Proofs.Trace.Given

/-!
# The account of an open call

What the events before the end have come to, read off the list of events: how many messages a call
has counted (`Call.cellAfter`), what it has measured (`Call.sizes`), and what its span was given
(`Call.givenAfter`). One event keeps the account (`Accounted.deliver`), and so does a run
(`Accounted.run`). The end closes it (`run_whole`).

A filtered call has no account; a detached one counts and measures no messages.
-/

namespace RpcTelemetry

namespace Event

theorem messages_append (first second : List Event) :
    messages (first ++ second) = messages first ++ messages second :=
  List.filterMap_append

theorem messages_cons (event : Event) (rest : List Event) :
    messages (event :: rest) = messages [event] ++ messages rest :=
  messages_append [event] rest

end Event

/-- The number of the status code of a call; 0 if the call did not fail. -/
def Completion.codeNumber (completion : Completion) : Nat :=
  match completion.status? with
  | none => 0
  | some status => status.code.number

/-- The outcome of a call has the code of the call, whatever the role makes of the status. -/
theorem Role.number_outcome (role : Role) (completion : Completion) :
    (role.outcome completion.failure).code.number = completion.codeNumber := by
  unfold Completion.codeNumber Completion.status? outcome
  cases completion.failure with
  | none => rfl
  | some failure => cases role <;> rfl

namespace Call

variable (call : Call)

/-- How many messages of a direction a call has counted among those that there were. Only a
recorded call counts. -/
def tally (messages : List (Direction × Message)) (direction : Direction) : Nat :=
  match call.tracking with
  | .recorded _ => messages.countP (·.1 = direction)
  | _ => 0

/-- The cell of an open call after messages. -/
def cellAfter (messages : List (Direction × Message)) : Cell :=
  ⟨false, .ofNat (call.tally messages .inbound), .ofNat (call.tally messages .outbound)⟩

/-- The measurements of messages, in order. Only a recorded call measures them. -/
def sizes (messages : List (Direction × Message)) : List Measurement :=
  match call.tracking with
  | .recorded identity =>
    messages.map fun (direction, message) =>
      call.measure direction.sizeSpec (.count message.length) identity
  | _ => []

/-- The span event of the last of the messages so far. -/
def entry (messages : List (Direction × Message)) (direction : Direction) (message : Message) :
    String × List Attribute :=
  (Convention.messageEvent,
    message.attributes direction (.ofNat (call.tally messages direction))
      (Payload.text message.payload).1)

/-- The span events of messages, in order. -/
def entries (messages : List (Direction × Message)) : List (String × List Attribute) :=
  messages.mapIdx fun index (direction, message) =>
    call.entry (messages.take (index + 1)) direction message

/-- The attributes that an event adds to the span: those of the peer, for outbound headers. -/
def headerAttributes (event : Event) : List Attribute :=
  match event.occurrence, call.peer with
  | .header .outbound _, some peer => peer.attributes.1
  | _, _ => []

/-- What the span of an open call was given after events. -/
def givenAfter (given : Given) (events : List Event) : Given :=
  { given with
    attributes := given.attributes ++ events.flatMap call.headerAttributes
    events := given.events ++ call.entries (Event.messages events) }

/-! ## How the account grows -/

@[simp] theorem cellAfter_nil : call.cellAfter [] = .fresh := by
  unfold cellAfter tally
  cases call.tracking <;> rfl

theorem entries_concat (messages : List (Direction × Message)) (direction : Direction)
    (message : Message) :
    call.entries (messages ++ [(direction, message)]) =
      call.entries messages ++
        [call.entry (messages ++ [(direction, message)]) direction message] := by
  unfold entries
  rw [List.mapIdx_append]
  congr 1
  -- An earlier entry looks no further than its own message.
  · refine List.mapIdx_eq_mapIdx_iff.2 fun index inside => ?_
    rw [List.take_append_of_le_length inside]
  · show [call.entry ((messages ++ [(direction, message)]).take (0 + messages.length + 1)) _ _] = _
    rw [List.take_of_length_le (by simp)]

@[simp] theorem givenAfter_nil (given : Given) : call.givenAfter given [] = given := by
  simp [givenAfter, entries, Event.messages]

@[simp] theorem sizes_nil : call.sizes [] = [] := by
  unfold sizes
  cases call.tracking <;> rfl

theorem sizes_append (first second : List (Direction × Message)) :
    call.sizes (first ++ second) = call.sizes first ++ call.sizes second := by
  unfold sizes
  cases call.tracking <;> simp

theorem tally_concat (messages : List (Direction × Message)) (direction : Direction)
    (message : Message) (counted : Direction) :
    call.tally (messages ++ [(direction, message)]) counted =
      call.tally messages counted + call.tally [(direction, message)] counted := by
  unfold tally
  cases call.tracking with
  | recorded identity => exact List.countP_append
  | filtered identity => rfl
  | detached => rfl

/-- A message is numbered by how many there are with it. -/
theorem number_cellAfter (seen : List (Direction × Message)) (direction : Direction)
    (message : Message) :
    call.number direction message (call.cellAfter seen) =
      (.ofNat (call.tally (seen ++ [(direction, message)]) direction),
        call.cellAfter (seen ++ [(direction, message)]), call.sizes [(direction, message)]) := by
  simp only [cellAfter, tally_concat, UInt64.ofNat_add]
  unfold number sizes tally
  cases call.tracking with
  | recorded identity => cases direction <;> simp [Cell.count]
  | filtered identity => simp
  | detached => simp

theorem givenAfter_concat (given : Given) (seen : List Event) (event : Event) :
    call.givenAfter given (seen ++ [event]) =
      { (call.givenAfter given seen).addAttributes (call.headerAttributes event) with
        events :=
          given.events ++ call.entries (Event.messages seen ++ Event.messages [event]) } := by
  simp [givenAfter, Given.addAttributes, Event.messages_append]

/-- Progress that accounts for events: the messages are counted, and a span that started as a
recording one was given what belongs to them. -/
structure Accounted (start : Span) (seen : List Event) (progress : Progress) : Prop where
  cell : progress.cell = call.cellAfter (Event.messages seen)
  span {given : Given} {limits : SpanLimits} {exporting : Bool} :
    start = given.span limits exporting →
      progress.span = (call.givenAfter given seen).span limits exporting

/-! ## One event -/

variable {event : Event} (progress : Progress)

/-- An event that neither is a message nor the end does no more than to add its attributes. -/
theorem deliverLive_of_silent (silent : event.message? = none) (early : event.isEnd = false) :
    ∃ logs, call.deliverLive event progress =
      (⟨progress.cell, progress.span.setAttributes (call.headerAttributes event)⟩,
        .ofLogs logs) := by
  obtain ⟨client, occurrence⟩ := event
  cases occurrence with
  | message direction message => cases silent
  | ended completion => cases early
  | header direction metadata =>
    cases direction with
    | inbound => exact ⟨[], rfl⟩
    | outbound =>
      show ∃ logs, call.deliverHeader progress = _
      unfold deliverHeader headerAttributes
      cases call.peer with
      | none => exact ⟨[], rfl⟩
      | some peer => exact ⟨peer.attributes.2, rfl⟩
  | began => exact ⟨[], rfl⟩
  | trailer direction metadata => exact ⟨[], rfl⟩

theorem deliverLive_of_message {direction : Direction} {message : Message}
    (reported : event.message? = some (direction, message)) :
    call.deliverLive event progress = call.deliverMessage direction message progress ∧
      call.headerAttributes event = [] := by
  obtain ⟨client, occurrence⟩ := event
  cases occurrence with
  | message direction message =>
    cases reported
    exact ⟨rfl, rfl⟩
  | _ => cases reported

variable {call} {progress} {start : Span} {seen : List Event}

theorem deliver_of_open (followed : call.tracking.isFiltered = false)
    (isOpen : progress.cell.ended = false) :
    call.deliver event progress =
      ((call.deliverLive event progress).1,
        .ofLogs [call.dispatchEntry event] ++ (call.deliverLive event progress).2) := by
  unfold deliver
  cases tracking : call.tracking with
  | filtered identity => simp [tracking, Tracking.isFiltered] at followed
  | recorded identity => simp [isOpen]
  | detached => simp [isOpen]

/-- An event before the end keeps the account. It gives out the size of its message and nothing
else. -/
theorem Accounted.deliverLive (accounted : call.Accounted start seen progress)
    (early : event.isEnd = false) :
    call.Accounted start (seen ++ [event]) (call.deliverLive event progress).1 ∧
      (call.deliverLive event progress).2.spans = [] ∧
      (call.deliverLive event progress).2.measurements = call.sizes (Event.messages [event]) := by
  cases reported : event.message? with
  | none =>
    have none : Event.messages [event] = [] := List.filterMap_cons_none reported
    obtain ⟨logs, silent⟩ := call.deliverLive_of_silent progress reported early
    rw [silent, none]
    refine ⟨⟨?_, fun started => ?_⟩, rfl, call.sizes_nil.symm⟩
    · rw [Event.messages_append, none, List.append_nil]
      exact accounted.cell
    · show progress.span.setAttributes _ = _
      rw [accounted.span started, Given.setAttributes_span, givenAfter_concat, none,
        List.append_nil]
      rfl
  | some report =>
    obtain ⟨direction, message⟩ := report
    have one : Event.messages [event] = [(direction, message)] := List.filterMap_cons_some reported
    obtain ⟨delivered, bare⟩ := call.deliverLive_of_message progress reported
    have numbered := call.number_cellAfter (Event.messages seen) direction message
    rw [← accounted.cell] at numbered
    rw [delivered, deliverMessage, numbered, one]
    refine ⟨⟨?_, fun started => ?_⟩, rfl, rfl⟩
    · rw [Event.messages_append, one]
    · show progress.span.addMessage _ _ _ _ = _
      rw [accounted.span started, Span.addMessage, Given.addEvent_span, givenAfter_concat, one,
        bare, entries_concat]
      simp [Given.addEvent, givenAfter, entry]

theorem Accounted.isOpen (accounted : call.Accounted start seen progress) :
    progress.cell.ended = false := by
  rw [accounted.cell]
  rfl

theorem Accounted.deliver (accounted : call.Accounted start seen progress)
    (followed : call.tracking.isFiltered = false) (early : event.isEnd = false) :
    call.Accounted start (seen ++ [event]) (call.deliver event progress).1 ∧
      (call.deliver event progress).2.spans = [] ∧
      (call.deliver event progress).2.measurements = call.sizes (Event.messages [event]) := by
  obtain ⟨kept, spans, measurements⟩ := accounted.deliverLive early
  rw [deliver_of_open followed accounted.isOpen]
  refine ⟨kept, ?_, ?_⟩
  · rw [Output.spans_append, spans]
    rfl
  · rw [Output.measurements_append, measurements]
    rfl

/-! ## Runs -/

/-- The call of a new handle accounts for no events. -/
theorem accounted_fresh (call : Call) (span : Span) : call.Accounted span [] ⟨.fresh, span⟩ where
  cell := call.cellAfter_nil.symm
  span started := by rw [givenAfter_nil, ← started]

/-- Events before the end keep the account. They give out the sizes of their messages and nothing
else. -/
theorem Accounted.run {events : List Event} (accounted : call.Accounted start seen progress)
    (followed : call.tracking.isFiltered = false) (early : ∀ event ∈ events, event.isEnd = false) :
    call.Accounted start (seen ++ events) (call.run events progress).1 ∧
      (call.run events progress).2.spans = [] ∧
      (call.run events progress).2.measurements = call.sizes (Event.messages events) := by
  -- Events are handled from the front, so what was seen before grows along the induction.
  induction events generalizing seen progress with
  | nil =>
    rw [List.append_nil]
    exact ⟨accounted, rfl, call.sizes_nil.symm⟩
  | cons event rest ih =>
    obtain ⟨first, spans, measurements⟩ := accounted.deliver followed (early event (by simp))
    obtain ⟨kept, laterSpans, laterMeasurements⟩ :=
      ih first fun later present => early later (List.mem_cons_of_mem _ present)
    rw [List.append_assoc, List.singleton_append] at kept
    rw [run_cons]
    refine ⟨kept, ?_, ?_⟩
    · rw [Output.spans_append, spans, laterSpans, List.append_nil]
    · rw [Output.measurements_append, measurements, laterMeasurements,
        Event.messages_cons event rest, sizes_append]

/-- The end of an open call closes the account: the span ends with the outcome, and the call is
measured as a whole. -/
theorem deliver_ended (followed : call.tracking.isFiltered = false)
    (isOpen : progress.cell.ended = false) {completion : Completion}
    (last : event.occurrence = .ended completion) :
    (call.deliver event progress).2.spans =
        (progress.span.conclude (call.role.outcome completion.failure)).exported ∧
      (call.deliver event progress).2.measurements = call.summary completion progress.cell := by
  have delivered : call.deliverLive event progress = call.deliverEnd completion progress := by
    rw [deliverLive, last]
  rw [deliver_of_open followed isOpen, delivered]
  exact ⟨List.append_nil _, rfl⟩

/-- All that a whole call gives out: the sizes of its messages, its measurements as a whole and, if
its span was recording, what that was given. -/
theorem run_whole {before : List Event} {last : Event} {completion : Completion}
    (followed : call.tracking.isFiltered = false) (early : ∀ event ∈ before, event.isEnd = false)
    (ended : last.occurrence = .ended completion) (span : Span) :
    let outcome := call.role.outcome completion.failure
    let output := (call.run (before ++ [last]) ⟨.fresh, span⟩).2
    output.measurements = call.sizes (Event.messages before) ++
        call.summary completion (call.cellAfter (Event.messages before)) ∧
      ∀ {given : Given} {limits : SpanLimits}, given.status = .unset →
        span = given.span limits true →
          output.spans = [(((call.givenAfter given before).addAttributes
            [outcome.code.attribute]).withStatus outcome.status).within limits] := by
  obtain ⟨kept, spans, measurements⟩ := (call.accounted_fresh span).run followed early
  obtain ⟨lastSpans, lastMeasurements⟩ := deliver_ended followed kept.isOpen ended
  rw [run_append, run_singleton]
  refine ⟨?_, fun {given} {limits} unset started => ?_⟩
  · rw [Output.measurements_append, measurements, lastMeasurements, kept.cell]
    rfl
  · rw [Output.spans_append, spans, lastSpans, kept.span started, List.nil_append, List.nil_append,
      Given.conclude_span (call.givenAfter given before) limits true unset]
    rfl

end Call

end RpcTelemetry
