import RpcTelemetry.Call.Deliver

/-!
# Runs of a call

What holds of every run of every call: runs compose, the end flag tells whether an end was among the
events, a call that is over stays as it is, and so does a span that is over.

Main statements: `run_append`, `ended_run`, `run_of_ended`, `span_run_of_over`.
-/

namespace RpcTelemetry

namespace Event

/-- Whether an event reports the end of its call. -/
def isEnd (event : Event) : Bool :=
  match event.occurrence with
  | .ended _ => true
  | _ => false

/-- The message that an event reports, if any, with its direction. -/
def message? (event : Event) : Option (Direction × Message) :=
  match event.occurrence with
  | .message direction message => some (direction, message)
  | _ => none

/-- The messages among events, in order. -/
def messages (events : List Event) : List (Direction × Message) := events.filterMap message?

end Event

/-- Whether a handle was refused by the filter. -/
def Tracking.isFiltered : Tracking → Bool
  | .filtered _ => true
  | _ => false

theorem Tracking.exists_of_isFiltered {tracking : Tracking}
    (filtered : tracking.isFiltered = true) : ∃ identity, tracking = .filtered identity := by
  cases tracking with
  | filtered identity => exact ⟨identity, rfl⟩
  | _ => cases filtered

namespace Output

@[simp] theorem append_none (output : Output) : output ++ none = output := by
  show append output none = output
  simp [append, none]

@[simp] theorem none_append (output : Output) : none ++ output = output := rfl

theorem append_assoc (first second third : Output) :
    first ++ second ++ third = first ++ (second ++ third) := by
  show append (append first second) third = append first (append second third)
  simp [append]

theorem ofLogs_append (first second : List Log.Entry) :
    ofLogs first ++ ofLogs second = ofLogs (first ++ second) := rfl

end Output

namespace Span

variable {span : Span}

theorem setAttribute_of_over (past : span.data = none) (added : Attribute) :
    span.setAttribute added = span := by
  cases span
  cases past
  rfl

theorem setAttributes_of_over (past : span.data = none) (added : List Attribute) :
    span.setAttributes added = span := by
  induction added with
  | nil => rfl
  | cons first rest ih =>
    show (span.setAttribute first).setAttributes rest = span
    rw [setAttribute_of_over past, ih]

theorem addEvent_of_over (past : span.data = none) (name : String) (attributes : List Attribute) :
    span.addEvent name attributes = span := by
  cases span
  cases past
  rfl

theorem setStatus_of_over (past : span.data = none) (status : SpanStatus) :
    span.setStatus status = span := by
  cases span
  cases past
  rfl

theorem conclude_of_over (past : span.data = none) (outcome : Outcome) :
    span.conclude outcome = span := by
  cases span
  cases past
  rfl

theorem finish_of_over (past : span.data = none) : span.finish = span := by
  cases span
  cases past
  rfl

end Span

namespace Call

variable (call : Call)

/-! ## Runs compose -/

theorem run_cons (event : Event) (rest : List Event) (progress : Progress) :
    call.run (event :: rest) progress =
      ((call.run rest (call.deliver event progress).1).1,
        (call.deliver event progress).2 ++ (call.run rest (call.deliver event progress).1).2) := rfl

theorem run_append (first second : List Event) (progress : Progress) :
    call.run (first ++ second) progress =
      ((call.run second (call.run first progress).1).1,
        (call.run first progress).2 ++ (call.run second (call.run first progress).1).2) := by
  induction first generalizing progress with
  | nil => rfl
  | cons event rest ih => simp only [List.cons_append, run_cons, ih, Output.append_assoc]

@[simp] theorem run_singleton (event : Event) (progress : Progress) :
    call.run [event] progress = call.deliver event progress := by
  simp [run]

/-! ## The end flag -/

theorem ended_number (direction : Direction) (message : Message) (cell : Cell) :
    (call.number direction message cell).2.1.ended = cell.ended := by
  unfold number
  cases call.tracking <;> cases direction <;> rfl

theorem ended_deliverLive (event : Event) (progress : Progress) :
    (call.deliverLive event progress).1.cell.ended = (progress.cell.ended || event.isEnd) := by
  obtain ⟨client, occurrence⟩ := event
  cases occurrence with
  | message direction message =>
    exact (call.ended_number direction message progress.cell).trans (Bool.or_false _).symm
  | header direction metadata =>
    cases direction with
    | inbound => exact (Bool.or_false _).symm
    | outbound =>
      show (call.deliverHeader progress).1.cell.ended = (progress.cell.ended || false)
      rw [Bool.or_false, deliverHeader]
      cases call.peer <;> rfl
  | ended completion => exact (Bool.or_true _).symm
  | began => exact (Bool.or_false _).symm
  | trailer direction metadata => exact (Bool.or_false _).symm

theorem ended_deliverFiltered (event : Event) (progress : Progress) :
    (call.deliverFiltered event progress).1.cell.ended = (progress.cell.ended || event.isEnd) := by
  obtain ⟨client, occurrence⟩ := event
  cases occurrence with
  | ended completion =>
    show (if progress.cell.ended then (progress, Output.none)
      else call.close completion progress).1.cell.ended = (progress.cell.ended || true)
    cases past : progress.cell.ended
    · rfl
    · simpa using past
  | _ => exact (Bool.or_false _).symm

/-- An event sets the end flag exactly if it is an end, on every kind of handle. -/
theorem ended_deliver (event : Event) (progress : Progress) :
    (call.deliver event progress).1.cell.ended = (progress.cell.ended || event.isEnd) := by
  unfold deliver
  split
  · exact call.ended_deliverFiltered event progress
  · split
    · next past => rw [past, Bool.true_or]
    · exact call.ended_deliverLive event progress

theorem ended_run (events : List Event) (progress : Progress) :
    (call.run events progress).1.cell.ended =
      (progress.cell.ended || events.any (·.isEnd)) := by
  induction events generalizing progress with
  | nil => exact (Bool.or_false _).symm
  | cons event rest ih =>
    rw [run_cons, ih, call.ended_deliver, List.any_cons, Bool.or_assoc]

/-! ## Calls that are over -/

/-- What is logged about an event that comes after the end. -/
def lateLog (event : Event) : List Log.Entry :=
  match call.tracking with
  | .filtered _ => []
  | _ => [call.lateEntry event]

variable {call}

/-- An event after the end leaves nothing but a log entry, and of a filtered call not even that. -/
theorem deliver_of_ended {progress : Progress} (past : progress.cell.ended = true)
    (event : Event) : call.deliver event progress = (progress, .ofLogs (call.lateLog event)) := by
  unfold deliver lateLog
  cases call.tracking with
  | filtered identity =>
    show call.deliverFiltered event progress = (progress, .none)
    unfold deliverFiltered
    split
    · exact if_pos past
    · rfl
  | recorded identity => exact if_pos past
  | detached => exact if_pos past

theorem run_of_ended {progress : Progress} (past : progress.cell.ended = true)
    (events : List Event) :
    call.run events progress = (progress, .ofLogs (events.flatMap call.lateLog)) := by
  induction events with
  | nil => rfl
  | cons event rest ih =>
    simp only [run_cons, deliver_of_ended past, ih, Output.ofLogs_append, List.flatMap_cons]

/-! ## Spans that are over -/

theorem span_deliverLive_of_over {progress : Progress} (past : progress.span.data = none)
    (event : Event) : (call.deliverLive event progress).1.span = progress.span := by
  unfold deliverLive
  split
  · exact Span.addEvent_of_over past _ _
  · unfold deliverHeader
    split
    · rfl
    · exact Span.setAttributes_of_over past _
  · show (progress.span.conclude _).finish = progress.span
    rw [Span.conclude_of_over past, Span.finish_of_over past]
  · rfl

theorem span_deliver_of_over {progress : Progress} (past : progress.span.data = none)
    (event : Event) : (call.deliver event progress).1.span = progress.span := by
  unfold deliver
  split
  · unfold deliverFiltered
    split
    · split
      · rfl
      · show (progress.span.conclude _).finish = progress.span
        rw [Span.conclude_of_over past, Span.finish_of_over past]
    · rfl
  · split
    · rfl
    · exact span_deliverLive_of_over past event

theorem span_run_of_over {progress : Progress} (past : progress.span.data = none)
    (events : List Event) : (call.run events progress).1.span = progress.span := by
  induction events generalizing progress with
  | nil => rfl
  | cons event rest ih =>
    have kept : (call.deliver event progress).1.span = progress.span :=
      span_deliver_of_over past event
    rw [run_cons]
    exact (ih (kept ▸ past)).trans kept

end Call

end RpcTelemetry
