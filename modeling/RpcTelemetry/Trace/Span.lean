import RpcTelemetry.Attribute
import RpcTelemetry.Trace.Context

/-!
# Recording spans

A span collects attributes, events and a status within fixed limits until it ends. What is beyond a
limit is counted, not kept. Ending exports the content once; a span that has ended takes no more
changes.
-/

namespace RpcTelemetry

/-- How much of a span is kept. -/
structure SpanLimits where
  events : Nat
  attributes : Nat
  eventAttributes : Nat
  deriving DecidableEq, Repr

/-- The usual limits. -/
def SpanLimits.standard : SpanLimits := ⟨128, 128, 128⟩

instance : Inhabited SpanLimits := ⟨.standard⟩

/-- The side that a span stands for. -/
inductive SpanKind where
  | server
  | client
  | internal
  deriving DecidableEq, Repr

/-- How the work of a span ended. -/
inductive SpanStatus where
  | unset
  | error (description : String)
  | ok
  deriving DecidableEq, Repr

/-- Whether a status replaces another one: it does upwards only, and of two errors the one with the
greater description wins. -/
def SpanStatus.replaces : SpanStatus → SpanStatus → Bool
  | .unset, _ => false
  | .error _, .unset => true
  | .error new, .error old => old < new
  | .error _, .ok => false
  | .ok, .ok => false
  | .ok, _ => true

/-- What a tracer is called. -/
structure Scope where
  name : String
  version : String
  deriving DecidableEq, Repr

/-- Something that happened within a span. -/
structure SpanEvent where
  name : String
  attributes : List Attribute
  dropped : Nat
  deriving DecidableEq, Repr

/-- The content of a span. -/
structure SpanData where
  name : String
  kind : SpanKind
  context : SpanContext
  parent : BitVec 64
  attributes : List Attribute
  droppedAttributes : Nat
  events : List SpanEvent
  droppedEvents : Nat
  status : SpanStatus
  scope : Scope
  deriving DecidableEq

/-- The record of a span: its content until it ends. `exporting` tells whether anyone takes the
content then. -/
structure Span where
  limits : SpanLimits
  exporting : Bool
  data : Option SpanData

namespace Span

/-- A span that records nothing. -/
def inert : Span := ⟨.standard, false, none⟩

instance : Inhabited Span := ⟨inert⟩

/-- Whether a span still takes changes. -/
def isRecording (span : Span) : Bool := span.data.isSome

/-- A span that starts with attributes; those beyond the limit are dropped. -/
def start (limits : SpanLimits) (name : String) (kind : SpanKind) (context : SpanContext)
    (parent : BitVec 64) (attributes : List Attribute) (scope : Scope) : Span where
  limits := limits
  exporting := true
  data := some {
    name, kind, context, parent, scope
    attributes := attributes.take limits.attributes
    droppedAttributes := attributes.length - limits.attributes
    events := []
    droppedEvents := 0
    status := .unset }

/-- Adds an attribute at the end, also under a key that is there already. -/
def setAttribute (span : Span) (added : Attribute) : Span :=
  { span with data := span.data.map fun data =>
      if data.attributes.length < span.limits.attributes then
        { data with attributes := data.attributes ++ [added] }
      else { data with droppedAttributes := data.droppedAttributes + 1 } }

/-- Adds attributes one by one. -/
def setAttributes (span : Span) (attributes : List Attribute) : Span :=
  attributes.foldl setAttribute span

/-- Adds an event, cut to the limit on its attributes. -/
def addEvent (span : Span) (name : String) (attributes : List Attribute) : Span :=
  { span with data := span.data.map fun data =>
      if data.events.length < span.limits.events then
        { data with events := data.events ++ [{
            name
            attributes := attributes.take span.limits.eventAttributes
            dropped := attributes.length - span.limits.eventAttributes }] }
      else { data with droppedEvents := data.droppedEvents + 1 } }

/-- Sets the status unless the present one is as high. -/
def setStatus (span : Span) (status : SpanStatus) : Span :=
  { span with data := span.data.map fun data =>
      if status.replaces data.status then { data with status } else data }

/-- The span after its end. -/
def finish (span : Span) : Span := { span with data := none }

/-- What the end of a span exports: its content, if it has not ended before and is exporting. -/
def exported (span : Span) : List SpanData :=
  if span.exporting then span.data.toList else []

end Span

end RpcTelemetry
