import RpcTelemetry.Call.Progress
import RpcTelemetry.Call.Role
import RpcTelemetry.Event
import RpcTelemetry.Peer

/-!
# Delivering events

One rule serves both roles. A message gets the next ordinal of its direction, is measured, and
becomes an event of the span; outbound headers add the attributes of the peer; the end sets the
outcome, ends the span and measures the call. A filtered call does the last step only, and no call
does anything after its end.
-/

namespace RpcTelemetry

/-- What is fixed about a call when its events are delivered. -/
structure Call where
  role : Role
  tracking : Tracking
  peer : Option Peer

namespace Call

/-- The log entry that opens the handling of an event. -/
def dispatchEntry (call : Call) (event : Event) : Log.Entry :=
  ⟨.trace, "dispatch rpc stats",
    [("role", .string call.role.label), ("kind", .string event.occurrence.kind),
      ("client", .flag event.client)]⟩

/-- The log entry about an event that comes after the end. -/
def lateEntry (call : Call) (event : Event) : Log.Entry :=
  ⟨.debug, "rpc stats after end dropped",
    [("role", .string call.role.label), ("kind", .string event.occurrence.kind)]⟩

/-- The log entry about the end of a call of which only the span is known. -/
def uncountedEntry (call : Call) : Log.Entry :=
  ⟨.debug, "rpc ended without call state, message metrics skipped",
    [("role", .string call.role.label)]⟩

/-- A measurement by one of the instruments of the role. -/
def measure (call : Call) (spec : InstrumentSpec) (value : MeasuredValue)
    (attributes : List Attribute) : Measurement :=
  ⟨spec.name call.role.label, some spec.unit, value, attributes⟩

end Call

/-- The instrument for the sizes of messages in a direction. -/
def Direction.sizeSpec : Direction → InstrumentSpec
  | .inbound => .requestSize
  | .outbound => .responseSize

/-- The value of `message.type` for a direction. -/
def Direction.messageType : Direction → String
  | .inbound => Convention.received
  | .outbound => Convention.sent

/-- The key of the text of a message in a direction. -/
def Direction.payloadKey : Direction → String
  | .inbound => Convention.requestPayload
  | .outbound => Convention.responsePayload

/-- Counts a message; the new count is its ordinal. -/
def Cell.count (cell : Cell) : Direction → UInt64 × Cell
  | .inbound => (cell.received + 1, { cell with received := cell.received + 1 })
  | .outbound => (cell.sent + 1, { cell with sent := cell.sent + 1 })

/-- The attributes of the span event of a message. -/
def Message.attributes (message : Message) (direction : Direction) (ordinal : UInt64)
    (text : String) : List Attribute :=
  [.ofText Convention.messageType direction.messageType,
    .ofInt Convention.messageId (Attribute.saturated ordinal),
    .ofInt Convention.compressedSize (Attribute.saturated message.compressed),
    .ofInt Convention.uncompressedSize (Attribute.saturated message.length),
    .ofText direction.payloadKey text]

/-- The attribute of a status code. -/
def Code.attribute (code : Code) : Attribute := .ofInt Convention.statusCode code.number

namespace Span

/-- Adds the event of a message. -/
def addMessage (span : Span) (direction : Direction) (ordinal : UInt64) (message : Message)
    (text : String) : Span :=
  span.addEvent Convention.messageEvent (message.attributes direction ordinal text)

/-- Sets the outcome of a call, right before the span ends. -/
def conclude (span : Span) (outcome : Outcome) : Span :=
  (span.setAttribute outcome.code.attribute).setStatus outcome.status

end Span

namespace Call

/-- The ordinal of a message, the cell that has counted it and its measurement. Without a count the
ordinal is 0. -/
def number (call : Call) (direction : Direction) (message : Message) (cell : Cell) :
    UInt64 × Cell × List Measurement :=
  match call.tracking with
  | .recorded identity =>
    let (ordinal, cell) := cell.count direction
    (ordinal, cell, [call.measure direction.sizeSpec (.count message.length) identity])
  | _ => (0, cell, [])

/-- Handles a message. -/
def deliverMessage (call : Call) (direction : Direction) (message : Message)
    (progress : Progress) : Progress × Output :=
  let (ordinal, cell, measurements) := call.number direction message progress.cell
  let (text, logs) := Payload.text message.payload
  (⟨cell, progress.span.addMessage direction ordinal message text⟩, ⟨[], measurements, logs⟩)

/-- Handles outbound headers. -/
def deliverHeader (call : Call) (progress : Progress) : Progress × Output :=
  match call.peer with
  | none => (progress, .none)
  | some peer =>
    let (attributes, logs) := peer.attributes
    ({ progress with span := progress.span.setAttributes attributes }, .ofLogs logs)

/-- Sets the outcome of a call on its span and ends it. -/
def close (call : Call) (completion : Completion) (progress : Progress) : Progress × Output :=
  let span := progress.span.conclude (call.role.outcome completion.failure)
  (⟨{ progress.cell with ended := true }, span.finish⟩, ⟨span.exported, [], []⟩)

/-- The measurements at the end of a call: how long it took and, if its messages were counted, how
many there were. A filtered call has none. -/
def summary (call : Call) (completion : Completion) (cell : Cell) : List Measurement :=
  let code := (call.role.outcome completion.failure).code.attribute
  let elapsed := (Elapsed.between completion.start completion.stop).toMillis
  let duration (attributes : List Attribute) : Measurement :=
    call.measure .duration (.real elapsed.toBits) attributes
  match call.tracking with
  | .recorded identity =>
    let attributes := identity ++ [code]
    [duration attributes,
      call.measure .requestsPerRpc (.count cell.received) attributes,
      call.measure .responsesPerRpc (.count cell.sent) attributes]
  | .filtered _ => []
  | .detached => [duration [code]]

/-- Handles the end of a call that is not filtered. -/
def deliverEnd (call : Call) (completion : Completion) (progress : Progress) :
    Progress × Output :=
  let logs := if call.tracking = .detached then [call.uncountedEntry] else []
  let (closed, output) := call.close completion progress
  (closed, .ofLogs logs ++ output ++ ⟨[], call.summary completion progress.cell, []⟩)

/-- Handles an event of a call that is neither filtered nor over. -/
def deliverLive (call : Call) (event : Event) (progress : Progress) : Progress × Output :=
  match event.occurrence with
  | .message direction message => call.deliverMessage direction message progress
  | .header .outbound _ => call.deliverHeader progress
  | .ended completion => call.deliverEnd completion progress
  | _ => (progress, .none)

/-- Handles an event of a filtered call: its first end closes the span. -/
def deliverFiltered (call : Call) (event : Event) (progress : Progress) : Progress × Output :=
  match event.occurrence with
  | .ended completion =>
    if progress.cell.ended then (progress, .none) else call.close completion progress
  | _ => (progress, .none)

/-- Handles an event. -/
def deliver (call : Call) (event : Event) (progress : Progress) : Progress × Output :=
  match call.tracking with
  | .filtered _ => call.deliverFiltered event progress
  | _ =>
    if progress.cell.ended then (progress, .ofLogs [call.lateEntry event])
    else
      let (after, output) := call.deliverLive event progress
      (after, .ofLogs [call.dispatchEntry event] ++ output)

/-- Handles events one after another. -/
def run (call : Call) : List Event → Progress → Progress × Output
  | [], progress => (progress, .none)
  | event :: rest, progress =>
    let (next, output) := call.deliver event progress
    let (final, outputs) := call.run rest next
    (final, output ++ outputs)

end Call

end RpcTelemetry
