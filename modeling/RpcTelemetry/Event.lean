import RpcTelemetry.Clock
import RpcTelemetry.Metadata
import RpcTelemetry.Payload
import RpcTelemetry.Status

/-!
# Events of a call

A transport reports what happens in a call: its beginning, headers, messages and trailers in either
direction, and its end.
-/

namespace RpcTelemetry

/-- The direction of a message as the reporting side sees it. -/
inductive Direction where
  | inbound
  | outbound
  deriving DecidableEq, Repr

/-- A message: its size in memory, compressed, and on the wire with framing. -/
structure Message where
  payload : Option Payload
  length : UInt64
  compressed : UInt64
  wire : UInt64

/-- How a call ended. -/
structure Completion where
  start : Instant
  stop : Instant
  trailer : Metadata
  failure : Option Failure

/-- The status that a failed call ended with. -/
def Completion.status? (completion : Completion) : Option Status :=
  completion.failure.map Failure.toStatus

/-- What happened. -/
inductive Occurrence where
  | began
  | header (direction : Direction) (metadata : Metadata)
  | message (direction : Direction) (message : Message)
  | trailer (direction : Direction) (metadata : Metadata)
  | ended (completion : Completion)

/-- A report of the transport; `client` tells which side it stands on. -/
structure Event where
  client : Bool
  occurrence : Occurrence

namespace Occurrence

/-- The name of a kind of occurrence. -/
def kind : Occurrence → String
  | .began => "begin"
  | .header .inbound _ => "in_header"
  | .header .outbound _ => "out_header"
  | .message .inbound _ => "in_payload"
  | .message .outbound _ => "out_payload"
  | .trailer .inbound _ => "in_trailer"
  | .trailer .outbound _ => "out_trailer"
  | .ended _ => "end"

end Occurrence

end RpcTelemetry
