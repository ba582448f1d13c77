import RpcTelemetry.Text.Quoted

/-!
# Log entries

An entry has a level, a fixed message and fields in order. Entries are data; where they go is
decided by whoever collects them.
-/

namespace RpcTelemetry.Log

/-- Levels, from the most to the least detailed. -/
inductive Level where
  | trace
  | debug
  | info
  | warn
  | error
  deriving DecidableEq, Repr

/-- The name of a level. -/
def Level.name : Level → String
  | .trace => "TRACE"
  | .debug => "DEBUG"
  | .info => "INFO"
  | .warn => "WARN"
  | .error => "ERROR"

/-- How severe a level is. -/
def Level.severity : Level → Nat
  | .trace => 0
  | .debug => 1
  | .info => 2
  | .warn => 3
  | .error => 4

/-- The value of a field: a string, a text that is shown as it is, or a flag. -/
inductive FieldValue where
  | string (value : String)
  | shown (text : String)
  | flag (value : Bool)
  deriving DecidableEq, Repr

/-- The bare text of a field. -/
def FieldValue.text : FieldValue → String
  | .string value => value
  | .shown text => text
  | .flag value => if value then "true" else "false"

/-- A field as a log line shows it: a string stands in quotes. -/
def FieldValue.inLine : FieldValue → String
  | .string value => Text.quoted value
  | other => other.text

/-- One log entry. -/
structure Entry where
  level : Level
  message : String
  fields : List (String × FieldValue)
  deriving DecidableEq, Repr

/-- An entry that was written, and whether by a worker thread. -/
structure Record where
  entry : Entry
  worker : Bool
  deriving DecidableEq, Repr

/-- The target of all entries of this library. -/
def target : String := "spark_otel_rpc"

/-- The line that a collector prints for an entry. -/
def Entry.line (entry : Entry) : String :=
  let fields := entry.fields.map fun (name, value) => " " ++ name ++ "=" ++ value.inLine
  entry.level.name ++ " " ++ target ++ ": " ++ entry.message ++ String.join fields

end RpcTelemetry.Log
