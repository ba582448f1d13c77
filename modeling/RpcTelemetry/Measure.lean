import RpcTelemetry.Attribute
import RpcTelemetry.Convention
import RpcTelemetry.Text.Quoted

/-!
# Instruments and measurements

Five histograms measure the calls of a role. A meter keeps what it was asked for and every value
that was recorded.
-/

namespace RpcTelemetry

/-- What an instrument is called and measures. -/
structure InstrumentSpec where
  suffix : String
  description : String
  unit : String
  deriving DecidableEq, Repr

namespace InstrumentSpec

/-- An instrument without description and unit. -/
def ofSuffix (suffix : String) : InstrumentSpec := ⟨suffix, "", ""⟩

/-- The full name of an instrument for a role. -/
def name (spec : InstrumentSpec) (role : String) : String := "rpc." ++ role ++ "." ++ spec.suffix

/-- An instrument in a debugging text. -/
def debug (spec : InstrumentSpec) : String :=
  "InstrumentSpec \x7b suffix: " ++ Text.quoted spec.suffix ++ ", description: " ++
    Text.quoted spec.description ++ ", unit: " ++ Text.quoted spec.unit ++ " \x7d"

/-- How long a call takes, in milliseconds. -/
def duration : InstrumentSpec :=
  ⟨"duration", "Measures the duration of inbound or outbound RPC.", "ms"⟩

/-- The sizes of inbound messages. -/
def requestSize : InstrumentSpec :=
  ⟨"request.size", "Measures size of RPC request messages (uncompressed).", "By"⟩

/-- The sizes of outbound messages. -/
def responseSize : InstrumentSpec :=
  ⟨"response.size", "Measures size of RPC response messages (uncompressed).", "By"⟩

/-- The number of inbound messages of a call. -/
def requestsPerRpc : InstrumentSpec :=
  ⟨"requests_per_rpc", "Measures the number of messages received per RPC.", "\x7bcount\x7d"⟩

/-- The number of outbound messages of a call. -/
def responsesPerRpc : InstrumentSpec :=
  ⟨"responses_per_rpc", "Measures the number of messages sent per RPC.", "\x7bcount\x7d"⟩

end InstrumentSpec

/-- A recorded value: a count, or a floating-point number by its bits. -/
inductive MeasuredValue where
  | count (value : UInt64)
  | real (bits : UInt64)
  deriving DecidableEq, Repr

/-- The bits of a recorded value as a floating-point number; a count is rounded. -/
def MeasuredValue.realBits : MeasuredValue → UInt64
  | .count value => value.toFloat.toBits
  | .real bits => bits

/-- A recorded value with its instrument and attributes. -/
structure Measurement where
  instrument : String
  unit : Option String
  value : MeasuredValue
  attributes : List Attribute
  deriving DecidableEq, Repr

/-- Whether a histogram takes counts or floating-point numbers. -/
inductive HistogramKind where
  | count
  | real
  deriving DecidableEq, Repr

/-- What a provider of meters, or a meter of its, is asked for. -/
inductive MeterRequest where
  | scope (name version : String)
  | histogram (kind : HistogramKind) (name description unit : String)
  deriving DecidableEq, Repr

/-- A meter: its measurements in order. -/
structure Meter where
  measurements : List Measurement

namespace Meter

/-- A meter that was not used yet. -/
def fresh : Meter := ⟨[]⟩

instance : Inhabited Meter := ⟨fresh⟩

/-- The measurements of one instrument. -/
def measurementsOf (meter : Meter) (instrument : String) : List Measurement :=
  meter.measurements.filter (·.instrument = instrument)

/-- Keeps further measurements. -/
def record (meter : Meter) (measurements : List Measurement) : Meter :=
  ⟨meter.measurements ++ measurements⟩

/-- Forgets all measurements. -/
def reset (_ : Meter) : Meter := fresh

end Meter

/-- The histograms of a role in the order in which they are requested. -/
def instrumentRequests (role : String) : List MeterRequest :=
  let request (kind : HistogramKind) (spec : InstrumentSpec) : MeterRequest :=
    .histogram kind (spec.name role) spec.description spec.unit
  [request .real .duration, request .count .requestSize, request .count .responseSize,
    request .count .requestsPerRpc, request .count .responsesPerRpc]

/-- What a provider of meters is asked for a role: a meter of the scope of this library, and its
histograms. -/
def meterRequests (role : String) : List MeterRequest :=
  .scope Convention.scopeName Convention.scopeVersion :: instrumentRequests role

end RpcTelemetry
