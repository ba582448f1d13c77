import RpcTelemetry.Call.Deliver

/-!
# What a span was given

A recording span keeps only as much as its limits allow. `Given` is all that it was given, and
`Given.within` cuts that to limits. Every operation on the span is the plain one on what was given
(`start_eq_span`, `setAttribute_span`, `setAttributes_span`, `addEvent_span`, `conclude_span`), so
the limits matter only where the content is looked at.
-/

namespace RpcTelemetry

/-- All that a span was given, before any limit. An event is a name with attributes. -/
structure Given where
  name : String
  kind : SpanKind
  context : SpanContext
  parent : BitVec 64
  attributes : List Attribute
  events : List (String × List Attribute)
  status : SpanStatus
  scope : Scope

namespace Given

/-- An event with at most `limit` attributes. -/
def eventWithin (limit : Nat) (event : String × List Attribute) : SpanEvent :=
  ⟨event.1, event.2.take limit, event.2.length - limit⟩

/-- What limits leave of what was given: the first attributes and events, and the numbers of the
others. -/
def within (given : Given) (limits : SpanLimits) : SpanData where
  name := given.name
  kind := given.kind
  context := given.context
  parent := given.parent
  attributes := given.attributes.take limits.attributes
  droppedAttributes := given.attributes.length - limits.attributes
  events := (given.events.map (eventWithin limits.eventAttributes)).take limits.events
  droppedEvents := given.events.length - limits.events
  status := given.status
  scope := given.scope

/-- The recording span that was given this. -/
def span (given : Given) (limits : SpanLimits) (exporting : Bool) : Span :=
  ⟨limits, exporting, some (given.within limits)⟩

/-- The same with further attributes at the end. -/
def addAttributes (given : Given) (attributes : List Attribute) : Given :=
  { given with attributes := given.attributes ++ attributes }

/-- The same with a further event at the end. -/
def addEvent (given : Given) (event : String × List Attribute) : Given :=
  { given with events := given.events ++ [event] }

/-- The same with another status. -/
def withStatus (given : Given) (status : SpanStatus) : Given := { given with status }

end Given

namespace GivenLemmas

variable {α : Type} {limit : Nat}

theorem take_concat_of_lt {kept : List α} (room : kept.length < limit) (added : α) :
    (kept ++ [added]).take limit = kept.take limit ++ [added] := by
  rw [List.take_of_length_le (by simp only [List.length_append, List.length_singleton]; omega),
    List.take_of_length_le (by omega)]

theorem take_concat_of_le {kept : List α} (full : limit ≤ kept.length) (added : α) :
    (kept ++ [added]).take limit = kept.take limit :=
  List.take_append_of_le_length full

/-- The place that limits leave is found at the cut list as well as at the whole one. -/
theorem length_take_lt_iff {kept : List α} :
    (kept.take limit).length < limit ↔ kept.length < limit := by
  rw [List.length_take]
  omega

end GivenLemmas

open GivenLemmas

namespace Given

variable (given : Given) (limits : SpanLimits) (exporting : Bool)

@[simp] theorem addAttributes_nil : given.addAttributes [] = given := by
  simp [addAttributes]

theorem addAttributes_append (first second : List Attribute) :
    (given.addAttributes first).addAttributes second = given.addAttributes (first ++ second) := by
  simp [addAttributes]

/-- A span that has just started was given its first attributes and nothing else. -/
theorem start_eq_span (name : String) (kind : SpanKind) (context : SpanContext)
    (parent : BitVec 64) (attributes : List Attribute) (scope : Scope) :
    Span.start limits name kind context parent attributes scope =
      Given.span ⟨name, kind, context, parent, attributes, [], .unset, scope⟩ limits true := by
  simp [Span.start, span, within]

theorem setAttribute_span (added : Attribute) :
    (given.span limits exporting).setAttribute added =
      (given.addAttributes [added]).span limits exporting := by
  unfold span Span.setAttribute
  congr 2
  show some (if (given.attributes.take limits.attributes).length < limits.attributes then _
    else _) = _
  congr 1
  split
  · next fits =>
    have room := length_take_lt_iff.1 fits
    simp only [within, addAttributes, take_concat_of_lt room, List.length_append,
      List.length_singleton]
    congr 1
    omega
  · next full =>
    have reached := Nat.not_lt.1 (mt length_take_lt_iff.2 full)
    simp only [within, addAttributes, take_concat_of_le reached, List.length_append,
      List.length_singleton]
    congr 1
    omega

theorem setAttributes_span (added : List Attribute) :
    (given.span limits exporting).setAttributes added =
      (given.addAttributes added).span limits exporting := by
  induction added generalizing given with
  | nil => rw [addAttributes_nil]; rfl
  | cons first rest ih =>
    calc (given.span limits exporting).setAttributes (first :: rest)
        = ((given.span limits exporting).setAttribute first).setAttributes rest := rfl
      _ = ((given.addAttributes [first]).addAttributes rest).span limits exporting := by
          rw [setAttribute_span, ih]
      _ = (given.addAttributes (first :: rest)).span limits exporting := by
          rw [addAttributes_append]; rfl

theorem addEvent_span (name : String) (attributes : List Attribute) :
    (given.span limits exporting).addEvent name attributes =
      (given.addEvent (name, attributes)).span limits exporting := by
  -- The kept events are counted after each was cut to its own limit, which leaves their number.
  have counted : (given.events.map (eventWithin limits.eventAttributes)).length =
      given.events.length := List.length_map _
  unfold span Span.addEvent
  congr 2
  show some (if ((given.events.map (eventWithin limits.eventAttributes)).take
    limits.events).length < limits.events then _ else _) = _
  congr 1
  split
  · next fits =>
    have room := length_take_lt_iff.1 fits
    simp only [within, Given.addEvent, List.map_append, List.map_singleton,
      take_concat_of_lt room, List.length_append, List.length_singleton, eventWithin]
    congr 1
    omega
  · next full =>
    have reached := Nat.not_lt.1 (mt length_take_lt_iff.2 full)
    simp only [within, Given.addEvent, List.map_append, List.map_singleton,
      take_concat_of_le reached, List.length_append, List.length_singleton]
    congr 1
    omega

/-- Any status replaces an unset one, as far as it says something. -/
theorem setStatus_span (unset : given.status = .unset) (status : SpanStatus) :
    (given.span limits exporting).setStatus status =
      (given.withStatus status).span limits exporting := by
  cases status <;> simp [span, Span.setStatus, within, withStatus, unset, SpanStatus.replaces]

/-- Concluding a span gives it the code as a last attribute, and the status. -/
theorem conclude_span (unset : given.status = .unset) (outcome : Outcome) :
    (given.span limits exporting).conclude outcome =
      ((given.addAttributes [outcome.code.attribute]).withStatus outcome.status).span limits
        exporting := by
  rw [Span.conclude, setAttribute_span]
  exact setStatus_span (given.addAttributes _) limits exporting unset outcome.status

end Given

end RpcTelemetry
