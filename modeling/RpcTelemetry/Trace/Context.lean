import RpcTelemetry.Trace.State
import RpcTelemetry.Text.Numeral

/-!
# Span identities and contexts

A span is known by the trace that it belongs to and its own number. A context may have an active
span, under which further spans start.
-/

namespace RpcTelemetry

/-- The identity of a span, with what travels along with it. -/
structure SpanContext where
  trace : BitVec 128
  span : BitVec 64
  flags : BitVec 8
  remote : Bool
  state : TraceState
  deriving DecidableEq

namespace SpanContext

/-- The identity of no span. -/
def invalid : SpanContext := ⟨0, 0, 0, false, .empty⟩

instance : Inhabited SpanContext := ⟨invalid⟩

/-- Whether both numbers are set. -/
def isValid (context : SpanContext) : Bool := context.trace ≠ 0 && context.span ≠ 0

/-- Whether the span is recorded where it was started. -/
def isSampled (context : SpanContext) : Bool := context.flags.getLsbD 0

/-- The trace in 32 hexadecimal digits. -/
def traceText (context : SpanContext) : List Char := Text.hexPadded 32 context.trace.toNat

/-- The span in 16 hexadecimal digits. -/
def spanText (context : SpanContext) : List Char := Text.hexPadded 16 context.span.toNat

end SpanContext

/-- The active span of a context: its identity and, if it was started here and sampled, where its
record is kept. -/
structure ActiveSpan where
  identity : SpanContext
  record : Option Nat
  deriving DecidableEq

/-- What is current at some point of a program. -/
structure Context where
  active : Option ActiveSpan
  deriving DecidableEq

namespace Context

/-- A context without a span. -/
def empty : Context := ⟨none⟩

instance : Inhabited Context := ⟨empty⟩

/-- A context with a span of another process. -/
def remote (identity : SpanContext) : Context := ⟨some ⟨identity, none⟩⟩

/-- The identity of the active span; invalid if there is none. -/
def identity (context : Context) : SpanContext :=
  (context.active.map (·.identity)).getD .invalid

/-- Where the record of the active span is kept. -/
def record? (context : Context) : Option Nat := context.active.bind (·.record)

end Context

end RpcTelemetry
