import RpcTelemetry.Keyed
import RpcTelemetry.Text.Quoted

/-!
# Metadata of a call

The headers that travel with a call. A key is a non-empty string of lower-case letters, digits,
hyphens, underscores and dots; a value consists of printable ASCII characters. Each key has one
value, and a later write replaces an earlier one.

A write or a removal that also tells what the key had is tied to the plain one by
`Metadata.exchange_eq` and `Metadata.extract_eq`.
-/

namespace RpcTelemetry

namespace Metadata

/-- Whether a character may stand in a key. -/
def isKeyChar (c : Char) : Bool :=
  ('a' ≤ c && c ≤ 'z') || ('0' ≤ c && c ≤ '9') || c == '-' || c == '_' || c == '.'

/-- Whether a string is a key. -/
def isKey (key : String) : Bool := key.toList ≠ [] && key.toList.all isKeyChar

/-- Whether a character may stand in a value: those from the space to the tilde. -/
def isValueChar (c : Char) : Bool := ' ' ≤ c && c ≤ '~'

/-- Whether a string is a value. -/
def isValue (value : String) : Bool := value.toList.all isValueChar

/-- Why a write was refused. -/
inductive WriteError where
  | invalidKey (key : String)
  | invalidValue (key : String)
  deriving DecidableEq, Repr

/-- The key of the refused write. -/
def WriteError.key : WriteError → String
  | .invalidKey key => key
  | .invalidValue key => key

/-- The text of the error. -/
def WriteError.message : WriteError → String
  | .invalidKey key => "invalid metadata key `" ++ key ++ "`"
  | .invalidValue key => "invalid metadata value for key `" ++ key ++ "`"

end Metadata

/-- Headers with valid keys and values, one value for each key. -/
structure Metadata where
  fields : Keyed String
  valid : ∀ field ∈ fields.entries, Metadata.isKey field.1 ∧ Metadata.isValue field.2

namespace Metadata

/-- No headers. -/
def empty : Metadata := ⟨.empty, by simp [Keyed.empty]⟩

instance : Inhabited Metadata := ⟨empty⟩

instance : EmptyCollection Metadata := ⟨empty⟩

/-- The value of a key. -/
def get? (metadata : Metadata) (key : String) : Option String := metadata.fields.get? key

/-- The headers in increasing order of their keys. -/
def toList (metadata : Metadata) : List (String × String) := metadata.fields.entries

/-- The keys in increasing order. -/
def keys (metadata : Metadata) : List String := metadata.fields.keys

/-- The number of keys. -/
def size (metadata : Metadata) : Nat := metadata.fields.size

/-- The headers with a new value for a key, unless the key or the value is invalid; a bad key is
found first. -/
def insert (metadata : Metadata) (key value : String) : Except WriteError Metadata :=
  if validKey : isKey key then
    if validValue : isValue value then
      .ok {
        fields := metadata.fields.insert key value
        valid := fun field present => by
          rcases Keyed.mem_insertEntry present with rfl | present
          · exact ⟨validKey, validValue⟩
          · exact metadata.valid field present }
    else .error (.invalidValue key)
  else .error (.invalidKey key)

/-- The headers without a key. -/
def erase (metadata : Metadata) (key : String) : Metadata where
  fields := metadata.fields.erase key
  valid field present := metadata.valid field (List.mem_filter.1 present).1

/-- Writes a value under a key and gives back what the key had, unless the key or the value is
invalid; a bad key is found first, and a refused write leaves the headers as they were. -/
def exchange (metadata : Metadata) (key value : String) :
    Metadata × Except WriteError (Option String) :=
  if validKey : isKey key then
    if validValue : isValue value then
      let exchanged := metadata.fields.exchange key value
      ({
        fields := exchanged.2
        valid := fun field present => by
          rw [show exchanged = _ from metadata.fields.exchange_eq key value] at present
          rcases Keyed.mem_insertEntry present with rfl | present
          · exact ⟨validKey, validValue⟩
          · exact metadata.valid field present }, .ok exchanged.1)
    else (metadata, .error (.invalidValue key))
  else (metadata, .error (.invalidKey key))

/-- Takes a key out of the headers and gives back what it had. -/
def extract (metadata : Metadata) (key : String) : Metadata × Option String :=
  let extracted := metadata.fields.extract key
  ({
    fields := extracted.2
    valid := fun field present => by
      rw [show extracted = _ from metadata.fields.extract_eq key] at present
      exact metadata.valid field (List.mem_filter.1 present).1 }, extracted.1)

/-- To exchange is to insert and to tell what the key had; a refused write is told and changes
nothing. -/
theorem exchange_eq (metadata : Metadata) (key value : String) :
    metadata.exchange key value =
      match metadata.insert key value with
      | .ok written => (written, .ok (metadata.get? key))
      | .error error => (metadata, .error error) := by
  unfold exchange insert
  split
  · split
    · simp only [metadata.fields.exchange_eq, get?]
    · rfl
  · rfl

/-- To extract is to erase and to tell what the key had. -/
theorem extract_eq (metadata : Metadata) (key : String) :
    metadata.extract key = (metadata.erase key, metadata.get? key) := by
  simp only [extract, erase, metadata.fields.extract_eq, get?]

/-- The headers after all fields that can be written, from left to right, and the errors of those
that cannot. -/
def insertAll (metadata : Metadata) :
    List (String × String) → Metadata × List WriteError
  | [] => (metadata, [])
  | (key, value) :: rest =>
    match metadata.insert key value with
    | .ok written => written.insertAll rest
    | .error error =>
      let (final, errors) := metadata.insertAll rest
      (final, error :: errors)

/-- Headers in a debugging text. -/
def debug (metadata : Metadata) : String :=
  let entries := metadata.toList.map fun (key, value) =>
    Text.quoted key ++ ": " ++ Text.quoted value
  "Metadata \x7b entries: \x7b" ++ String.intercalate ", " entries ++ "\x7d \x7d"

end Metadata

end RpcTelemetry
