import RpcTelemetry.Payload.Value
import RpcTelemetry.Payload.Json
import RpcTelemetry.Decimal.Layout
import RpcTelemetry.Text.Split

/-!
# Serialising values

A value becomes a JSON document unless some node on the way cannot be written. Nodes are visited
from left to right, a key before its value, and the first one that cannot be written decides the
failure.
-/

namespace RpcTelemetry.Payload

open Text

/-- Why a node cannot be written. -/
inductive SerialError where
  | custom (message : String)
  | keyNotString
  | keyNotFinite
  deriving DecidableEq, Repr

namespace SerialError

/-- The text before the last occurrence of `mark`, and the text after it. -/
def cutLastMark (mark : List Char) : List Char → Option (List Char × List Char)
  | [] => if mark.isEmpty then some ([], []) else none
  | c :: rest =>
    match cutLastMark mark rest with
    | some (before, after) => some (c :: before, after)
    | none => (dropLead? mark (c :: rest)).map fun after => ([], after)

/-- A position at the end of a message: the message without it, the line and the column. -/
def position? (message : List Char) : Option (List Char × Nat × Nat) := do
  let (start, rest) ← cutLastMark " at line ".toList message
  let line := rest.takeWhile Char.isDigit
  let column ← dropLead? " column ".toList (rest.dropWhile Char.isDigit)
  let line ← (natural? 10 line).filter (· < UInt64.size)
  let column ← (natural? 10 column).filter (· < UInt64.size)
  return (start, line, column)

/-- A message of a value's own, as it is shown: a position at its end is written anew, and left out
if the line is 0. -/
def shownMessage (message : String) : String :=
  match position? message.toList with
  | none => message
  | some (start, line, column) =>
    if line = 0 then String.ofList start
    else String.ofList start ++ " at line " ++ toString line ++ " column " ++ toString column

/-- The text of the error. -/
def message : SerialError → String
  | .custom text => shownMessage text
  | .keyNotString => "key must be a string"
  | .keyNotFinite => "float key must be finite (got NaN or +/-inf)"

end SerialError

/-- Double numbers are positional between 0.00001 and ten quadrillion, and null if they are not
finite. -/
def doubleNumbers : Decimal.Layout where
  least := -5
  bound := 16
  exponentSign := ['+']
  tie := .toEven
  nan := "null"
  infinity := "null"

/-- Single numbers are positional between 0.000001 and ten trillion. -/
def singleNumbers : Decimal.Layout := { doubleNumbers with least := -6, bound := 13 }

/-- The text of a double number in a document; `none` if it is not finite. -/
def doubleText? (bits : UInt64) : Option (List Char) :=
  let value := Decimal.Binary.ofBits .double bits.toNat
  if value.isFinite then some (doubleNumbers.render .double value).toList else none

/-- The text of a single number in a document; `none` if it is not finite. -/
def singleText? (bits : UInt32) : Option (List Char) :=
  let value := Decimal.Binary.ofBits .single bits.toNat
  if value.isFinite then some (singleNumbers.render .single value).toList else none

/-- The document of a floating-point number. -/
def numberDocument : Option (List Char) → Json
  | some text => .number text
  | none => .null

/-- The text of a floating-point number as a key. -/
def numberKey : Option (List Char) → Except SerialError (List Char)
  | some text => .ok text
  | none => .error .keyNotFinite

namespace Value

/-- The text of a value as a key of an object; optional values and newtypes are looked through. -/
def key : Value Empty → Except SerialError (List Char)
  | .string value => .ok value.toList
  | .char value => .ok [value]
  | .unitVariant _ variant => .ok variant.toList
  | .int value => .ok (toString value).toList
  | .bool value => .ok (if value then ['t', 'r', 'u', 'e'] else ['f', 'a', 'l', 's', 'e'])
  | .double bits => numberKey (doubleText? bits)
  | .single bits => numberKey (singleText? bits)
  | .some value => value.key
  | .newtype _ value => value.key
  | .failing message => .error (.custom message)
  | _ => .error .keyNotString

mutual

/-- The document of a value, or the first failure. -/
def document : Value Empty → Except SerialError Json
  | .unit => .ok .null
  | .none => .ok .null
  | .some value => value.document
  | .bool value => .ok (.bool value)
  | .int value => .ok (.number (toString value).toList)
  | .double bits => .ok (numberDocument (doubleText? bits))
  | .single bits => .ok (numberDocument (singleText? bits))
  | .char value => .ok (.string [value])
  | .string value => .ok (.string value.toList)
  | .bytes values => .ok (.array (values.map fun byte => .number (Nat.toDigits 10 byte.toNat)))
  | .unitStruct _ => .ok .null
  | .newtype _ value => value.document
  | .list items => do return .array (← documents items)
  | .tuple items => do return .array (← documents items)
  | .tupleStruct _ items => do return .array (← documents items)
  | .map entries => do return .object (← entryDocuments entries)
  | .struct _ fields => do return .object (← fieldDocuments fields)
  | .unitVariant _ variant => .ok (.string variant.toList)
  | .newtypeVariant _ variant value => do return .object [(variant.toList, ← value.document)]
  | .tupleVariant _ variant items => do
    return .object [(variant.toList, .array (← documents items))]
  | .structVariant _ variant fields => do
    return .object [(variant.toList, .object (← fieldDocuments fields))]
  | .failing message => .error (.custom message)

/-- The documents of the items of a list. -/
def documents : List (Value Empty) → Except SerialError (List Json)
  | [] => .ok []
  | item :: rest => do return (← item.document) :: (← documents rest)

/-- The members for the entries of a map. -/
def entryDocuments :
    List (Value Empty × Value Empty) → Except SerialError (List (List Char × Json))
  | [] => .ok []
  | (entryKey, value) :: rest => do
    return (← entryKey.key, ← value.document) :: (← entryDocuments rest)

/-- The members for the fields of a struct. -/
def fieldDocuments :
    List (String × Value Empty) → Except SerialError (List (List Char × Json))
  | [] => .ok []
  | (name, value) :: rest => do return (name.toList, ← value.document) :: (← fieldDocuments rest)

end

end Value

end RpcTelemetry.Payload
