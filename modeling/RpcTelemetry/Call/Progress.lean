import RpcTelemetry.Log
import RpcTelemetry.Measure
import RpcTelemetry.Trace.Span

/-!
# Progress of a call

What the events of a call change is its cell, shared by all clones of its handle, and its span.
What they give out is collected in an `Output`.
-/

namespace RpcTelemetry

/-- How a handle follows its call. -/
inductive Tracking where
  /-- Messages are counted and measured under the identity of the call. -/
  | recorded (identity : List Attribute)
  /-- The filter has refused the call; only the end of its span is looked after. -/
  | filtered (identity : List Attribute)
  /-- Nothing is known of the call but its span. -/
  | detached
  deriving DecidableEq, Repr

/-- The part of a call that all clones of its handle share: whether an end was handled, and the
numbers of messages in either direction. -/
structure Cell where
  ended : Bool
  received : UInt64
  sent : UInt64
  deriving DecidableEq, Repr

/-- A call without events. -/
def Cell.fresh : Cell := ⟨false, 0, 0⟩

instance : Inhabited Cell := ⟨.fresh⟩

/-- The cell and the span of a call. -/
structure Progress where
  cell : Cell
  span : Span

/-- What is given out on the way: ended spans, measurements and log entries, each in order. -/
structure Output where
  spans : List SpanData
  measurements : List Measurement
  logs : List Log.Entry

namespace Output

/-- Nothing. -/
def none : Output := ⟨[], [], []⟩

/-- Log entries only. -/
def ofLogs (logs : List Log.Entry) : Output := ⟨[], [], logs⟩

/-- One output after another. -/
def append (first second : Output) : Output :=
  ⟨first.spans ++ second.spans, first.measurements ++ second.measurements,
    first.logs ++ second.logs⟩

instance : Append Output := ⟨append⟩

@[simp] theorem spans_append (first second : Output) :
    (first ++ second).spans = first.spans ++ second.spans := rfl

@[simp] theorem measurements_append (first second : Output) :
    (first ++ second).measurements = first.measurements ++ second.measurements := rfl

@[simp] theorem logs_append (first second : Output) :
    (first ++ second).logs = first.logs ++ second.logs := rfl

end Output

end RpcTelemetry
