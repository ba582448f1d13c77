import Mathlib.Data.List.Forall2
import Mathlib.Data.Option.Basic
import RpcTelemetry.Call.Deliver

/-!
# Spans but for some texts

Two spans may differ in nothing but the texts of their span events at some positions. The relation
(`SpanData.AlikeBut`, `Span.AlikeBut`) is kept by every operation on spans that is done to both, and
by span events that themselves differ in nothing else (`Span.AlikeBut.addEvent`). The positions are
those of the span events that are kept, so the limit on these decides which of them a span event
gets (`Span.HasRoom`).
-/

namespace RpcTelemetry

/-- The attribute with an empty text, if it shows a message. -/
def Attribute.withoutText (item : Attribute) : Attribute :=
  if item.key = Convention.requestPayload ∨ item.key = Convention.responsePayload then
    .ofText item.key ""
  else item

/-- The span event without the text of its message. -/
def SpanEvent.withoutText (event : SpanEvent) : SpanEvent :=
  { event with attributes := event.attributes.map Attribute.withoutText }

/-- Contents of spans that differ in nothing but the texts of the span events at some positions. -/
structure SpanData.AlikeBut (replaced : Nat → Prop) (data other : SpanData) : Prop where
  rest : other = { data with events := other.events }
  texts : other.events.map SpanEvent.withoutText = data.events.map SpanEvent.withoutText
  kept : ∀ position, ¬replaced position → other.events[position]? = data.events[position]?

/-- Spans that differ in nothing but such texts. -/
structure Span.AlikeBut (replaced : Nat → Prop) (span other : Span) : Prop where
  limits : other.limits = span.limits
  exporting : other.exporting = span.exporting
  data : Option.Rel (SpanData.AlikeBut replaced) span.data other.data

/-- How many span events a span holds. -/
def Span.eventCount (span : Span) : Nat := (span.data.map (·.events.length)).getD 0

/-- Whether a span takes another span event. -/
def Span.HasRoom (span : Span) : Prop :=
  span.isRecording = true ∧ span.eventCount < span.limits.events

namespace SpanData.AlikeBut

variable {replaced : Nat → Prop} {data other : SpanData}

theorem refl (replaced : Nat → Prop) (data : SpanData) : data.AlikeBut replaced data where
  rest := rfl
  texts := rfl
  kept _ _ := rfl

/-- A change that does not look at the events keeps contents alike. -/
theorem map {change : SpanData → SpanData}
    (apart : ∀ data events, change { data with events } = { change data with events })
    (alike : data.AlikeBut replaced other) : (change data).AlikeBut replaced (change other) := by
  have kept (data : SpanData) : (change data).events = data.events := by
    have := congrArg SpanData.events (apart data data.events)
    exact this
  refine ⟨?_, ?_, fun position same => ?_⟩
  · rw [kept other]
    exact (congrArg change alike.rest).trans (apart data other.events)
  · rw [kept other, kept data]
    exact alike.texts
  · rw [kept other, kept data]
    exact alike.kept position same

theorem length_eq (alike : data.AlikeBut replaced other) :
    other.events.length = data.events.length := by
  simpa using congrArg List.length alike.texts

/-- Span events at the end that differ in no more than their texts keep contents alike. -/
theorem concat (alike : data.AlikeBut replaced other) {event otherEvent : SpanEvent}
    (texts : otherEvent.withoutText = event.withoutText)
    (kept : ¬replaced data.events.length → otherEvent = event) :
    SpanData.AlikeBut replaced { data with events := data.events ++ [event] }
      { other with events := other.events ++ [otherEvent] } where
  rest := by
    rw [alike.rest]
  texts := by
    simp only [List.map_append, List.map_singleton, alike.texts, texts]
  kept position same := by
    show (other.events ++ [otherEvent])[position]? = (data.events ++ [event])[position]?
    rcases Nat.lt_trichotomy position data.events.length with before | here | after
    · rw [List.getElem?_append_left before, List.getElem?_append_left (alike.length_eq ▸ before)]
      exact alike.kept position same
    · subst here
      rw [List.getElem?_concat_length, ← alike.length_eq, List.getElem?_concat_length, kept same]
    · rw [List.getElem?_eq_none (by simp [alike.length_eq]; omega),
        List.getElem?_eq_none (by simp; omega)]

theorem dropEvent (alike : data.AlikeBut replaced other) :
    SpanData.AlikeBut replaced { data with droppedEvents := data.droppedEvents + 1 }
      { other with droppedEvents := other.droppedEvents + 1 } where
  rest := by
    rw [alike.rest]
  texts := alike.texts
  kept := alike.kept

end SpanData.AlikeBut

namespace Span.AlikeBut

variable {replaced : Nat → Prop} {span other : Span}

theorem refl (replaced : Nat → Prop) (span : Span) : span.AlikeBut replaced span where
  limits := rfl
  exporting := rfl
  data := by
    cases span.data with
    | none => exact .none
    | some data => exact .some (.refl replaced data)

theorem map {change : SpanData → SpanData}
    (apart : ∀ data events, change { data with events } = { change data with events })
    (alike : span.AlikeBut replaced other) :
    Span.AlikeBut replaced { span with data := span.data.map change }
      { other with data := other.data.map change } where
  limits := alike.limits
  exporting := alike.exporting
  data := by
    obtain ⟨limits, exporting, data⟩ := span
    obtain ⟨otherLimits, otherExporting, otherData⟩ := other
    cases alike.data with
    | none => exact .none
    | some alikeData => exact .some (alikeData.map apart)

theorem setAttribute (alike : span.AlikeBut replaced other) (added : Attribute) :
    (span.setAttribute added).AlikeBut replaced (other.setAttribute added) := by
  obtain ⟨limits, exporting, data⟩ := span
  obtain ⟨otherLimits, otherExporting, otherData⟩ := other
  obtain rfl : otherLimits = limits := alike.limits
  refine alike.map ?_
  intro data events
  dsimp only
  split <;> rfl

theorem setAttributes (alike : span.AlikeBut replaced other) (added : List Attribute) :
    (span.setAttributes added).AlikeBut replaced (other.setAttributes added) := by
  induction added generalizing span other with
  | nil => exact alike
  | cons first rest ih => exact ih (alike.setAttribute first)

theorem setStatus (alike : span.AlikeBut replaced other) (status : SpanStatus) :
    (span.setStatus status).AlikeBut replaced (other.setStatus status) := by
  refine alike.map ?_
  intro data events
  dsimp only
  split <;> rfl

theorem conclude (alike : span.AlikeBut replaced other) (outcome : Outcome) :
    (span.conclude outcome).AlikeBut replaced (other.conclude outcome) :=
  (alike.setAttribute _).setStatus _

theorem finish (alike : span.AlikeBut replaced other) :
    span.finish.AlikeBut replaced other.finish where
  limits := alike.limits
  exporting := alike.exporting
  data := .none

theorem exported (alike : span.AlikeBut replaced other) :
    List.Forall₂ (SpanData.AlikeBut replaced) span.exported other.exported := by
  obtain ⟨limits, exporting, data⟩ := span
  obtain ⟨otherLimits, otherExporting, otherData⟩ := other
  obtain rfl : otherExporting = exporting := alike.exporting
  cases alike.data with
  | none => cases otherExporting <;> exact .nil
  | some alikeData =>
    cases otherExporting with
    | false => exact .nil
    | true => exact .cons alikeData .nil

end Span.AlikeBut

namespace Span

variable {replaced : Nat → Prop} {span other : Span}

theorem AlikeBut.addEvent (alike : span.AlikeBut replaced other) (name : String)
    {attributes otherAttributes : List Attribute}
    (texts : otherAttributes.map Attribute.withoutText = attributes.map Attribute.withoutText)
    (kept : span.HasRoom → ¬replaced span.eventCount → otherAttributes = attributes) :
    (span.addEvent name attributes).AlikeBut replaced (other.addEvent name otherAttributes) := by
  obtain ⟨limits, exporting, data⟩ := span
  obtain ⟨otherLimits, otherExporting, otherData⟩ := other
  obtain rfl : otherLimits = limits := alike.limits
  -- Both lists are as long, so the limit on attributes drops as many of either.
  have length : otherAttributes.length = attributes.length := by
    simpa using congrArg List.length texts
  refine ⟨rfl, alike.exporting, ?_⟩
  cases alike.data with
  | none => exact .none
  | @some data otherData alikeData =>
    refine .some ?_
    show SpanData.AlikeBut replaced (if _ then _ else _) (if _ then _ else _)
    rw [alikeData.length_eq]
    split
    · next room =>
      refine alikeData.concat ?_ fun same => ?_
      · simp only [SpanEvent.withoutText, List.map_take, texts, length]
      · rw [kept ⟨rfl, room⟩ same]
    · exact alikeData.dropEvent

theorem eventCount_setAttribute (span : Span) (added : Attribute) :
    (span.setAttribute added).eventCount = span.eventCount := by
  obtain ⟨limits, exporting, data⟩ := span
  cases data with
  | none => rfl
  | some data =>
    show (if _ then _ else _ : SpanData).events.length = data.events.length
    split <;> rfl

theorem hasRoom_setAttribute (span : Span) (added : Attribute) :
    (span.setAttribute added).HasRoom ↔ span.HasRoom := by
  unfold HasRoom
  rw [eventCount_setAttribute, isRecording, isRecording]
  show (span.data.map _).isSome = true ∧ _ ↔ _
  rw [Option.isSome_map]
  rfl

/-- Attributes take no room of span events. -/
theorem room_setAttributes (span : Span) (added : List Attribute) :
    (span.setAttributes added).eventCount = span.eventCount ∧
      ((span.setAttributes added).HasRoom ↔ span.HasRoom) := by
  induction added generalizing span with
  | nil => exact ⟨rfl, .rfl⟩
  | cons first rest ih =>
    obtain ⟨count, room⟩ := ih (span.setAttribute first)
    exact ⟨count.trans (span.eventCount_setAttribute first),
      room.trans (span.hasRoom_setAttribute first)⟩

theorem HasRoom.of_addEvent {name : String} {attributes : List Attribute}
    (room : (span.addEvent name attributes).HasRoom) :
    span.HasRoom ∧ (span.addEvent name attributes).eventCount = span.eventCount + 1 := by
  obtain ⟨limits, exporting, data⟩ := span
  cases data with
  | none => cases room.1
  | some data =>
    obtain ⟨-, below⟩ := room
    change (if _ then _ else _ : SpanData).events.length < limits.events at below
    show (_ ∧ data.events.length < limits.events) ∧
      (if data.events.length < limits.events then _ else _ : SpanData).events.length =
        data.events.length + 1
    split at below
    · next fits =>
      rw [if_pos fits]
      exact ⟨⟨rfl, fits⟩, by simp⟩
    · next full => exact absurd below full

end Span

end RpcTelemetry
