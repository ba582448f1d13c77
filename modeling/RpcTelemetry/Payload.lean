import RpcTelemetry.Payload.Serial
import RpcTelemetry.Payload.Inspect
import RpcTelemetry.Log

/-!
# Payloads

A transport hands over a message either as a structured value, which is shown as JSON, or as an
opaque one, which is shown by its debugging text. A message that cannot be serialised is shown by
the reason, and that is logged.
-/

namespace RpcTelemetry

/-- A message as the transport hands it over. -/
inductive Payload where
  | structured (message : Payload.Value Empty)
  | opaqueValue (value : Payload.Value String)

namespace Payload

/-- A payload in a debugging text; a structured message is not looked into. -/
def debug : Payload → String
  | .structured _ => "Payload::Structured(..)"
  | .opaqueValue value => inspectTuple "Payload::Opaque" [value.inspect]

/-- The log entry about a message that cannot be serialised. -/
def failureEntry (error : SerialError) : Log.Entry :=
  ⟨.warn, "payload serialization failed", [("error", .shown error.message)]⟩

/-- The text of a payload and what is logged on the way; no payload is shown as null. -/
def text : Option Payload → String × List Log.Entry
  | none => ("null", [])
  | some (.structured message) =>
    match message.document with
    | .ok document => (document.pretty, [])
    | .error error => ("Error marshaling to JSON: " ++ error.message, [failureEntry error])
  | some (.opaqueValue value) => (value.inspect, [])

end Payload

end RpcTelemetry
