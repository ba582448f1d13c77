import RpcTelemetry.Status
import RpcTelemetry.Trace.Span

/-!
# Roles

A handler serves one side of a call. The sides differ in the kind of their spans, in the channel
that the parent of a span comes from, and in how a failure shows in the status of a span.
-/

namespace RpcTelemetry

/-- A rule that maps the status of a failed call to the status of its span. -/
abbrev StatusPolicy := Status → SpanStatus

namespace StatusPolicy

/-- Faults of the server are errors; what the caller has to answer for leaves the span unset. -/
def standard : StatusPolicy := fun status =>
  match status.code with
  | .unknown | .deadlineExceeded | .unimplemented | .internal | .unavailable | .dataLoss =>
    .error status.message
  | _ => .unset

end StatusPolicy

/-- The side of a call that a handler stands on. -/
inductive Role where
  | server (policy : StatusPolicy)
  | client

/-- What the end of a call leaves on its span. -/
structure Outcome where
  status : SpanStatus
  code : Code
  deriving DecidableEq, Repr

namespace Role

/-- The name of a role in instruments and log entries. -/
def label : Role → String
  | .server _ => "server"
  | .client => "client"

/-- The kind of the spans of a role. -/
def spanKind : Role → SpanKind
  | .server _ => .server
  | .client => .client

/-- The outcome of a call: a failure counts by its status, which a server maps by its policy and a
client always takes for an error. -/
def outcome (role : Role) : Option Failure → Outcome
  | none => ⟨.unset, .ok⟩
  | some failure =>
    let status := failure.toStatus
    match role with
    | .server policy => ⟨policy status, status.code⟩
    | .client => ⟨.error status.message, status.code⟩

end Role

end RpcTelemetry
