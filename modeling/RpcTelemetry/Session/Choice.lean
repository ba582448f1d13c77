import RpcTelemetry.Handler
import RpcTelemetry.Propagation.TraceContext

/-!
# Ready-made choices

Filters, status policies and propagators by name, from which a script builds its handlers.
-/

namespace RpcTelemetry.Session

/-- A filter by name. -/
inductive FilterChoice where
  | all
  | nothing
  | failFast
  /-- Refuses methods that start with a text. -/
  | refuseLead (lead : String)
  | only (methods : List String)
  /-- Accepts methods of at most that many bytes. -/
  | bytes (most : Nat)
  deriving DecidableEq, Repr

/-- The filter of a name. -/
def FilterChoice.accepts : FilterChoice → CallFilter
  | .all, _ => true
  | .nothing, _ => false
  | .failFast, info => info.failFast
  | .refuseLead lead, info => !info.fullMethod.startsWith lead
  | .only methods, info => methods.contains info.fullMethod
  | .bytes most, info => info.fullMethod.utf8ByteSize ≤ most

/-- A status policy by name. -/
inductive PolicyChoice where
  | standard
  | everything
  | unset
  | ok
  | strict
  | inverted
  deriving DecidableEq, Repr

/-- The status policy of a name. -/
def PolicyChoice.policy : PolicyChoice → StatusPolicy
  | .standard => .standard
  | .everything => fun status => .error (status.code.name ++ ": " ++ status.message)
  | .unset => fun _ => .unset
  | .ok => fun _ => .ok
  | .strict => fun status => .error ("strict: " ++ status.code.name)
  | .inverted => fun status =>
    match StatusPolicy.standard status with
    | .unset => .error status.display
    | _ => .unset

/-- Where the propagator of a handler comes from. -/
inductive PropagatorChoice where
  | global
  | traceContext
  | fixed (fields : List (String × String))
  deriving DecidableEq, Repr

/-- The propagator to set, if one is set. -/
def PropagatorChoice.propagator? : PropagatorChoice → Option Propagator
  | .global => none
  | .traceContext => some TraceContext.propagator
  | .fixed fields => some (.fixed fields)

/-- How a handler is built. -/
structure HandlerSpec where
  side : Side
  filter : Option FilterChoice
  policy : PolicyChoice
  globalTracer : Bool
  globalMeter : Bool
  propagator : PropagatorChoice
  deriving DecidableEq, Repr

end RpcTelemetry.Session
