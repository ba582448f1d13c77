import RpcTelemetry.Payload.Value
import RpcTelemetry.Decimal.Layout
import RpcTelemetry.Text.Quoted

/-!
# Debugging text of values

The one-line text that shows a value with its type names: lists in brackets, tuples in parentheses,
maps and structs in braces.
-/

namespace RpcTelemetry.Payload

/-- Numbers are positional between 0.0001 and ten quadrillion; exponents have no plus sign. -/
def inspectedNumbers : Decimal.Layout where
  least := -4
  bound := 16
  exponentSign := []
  tie := .up
  nan := "NaN"
  infinity := "inf"

/-- Texts with a comma between them. -/
def commaSeparated (texts : List String) : String := String.intercalate ", " texts

/-- A tuple without a name; a single item keeps a comma after it. -/
def inspectBareTuple : List String → String
  | [item] => "(" ++ item ++ ",)"
  | items => "(" ++ commaSeparated items ++ ")"

/-- A name with items in parentheses; without items the name alone. An empty name is none, so that
a single item keeps its comma. -/
def inspectTuple (name : String) (items : List String) : String :=
  if items.isEmpty then name else name ++
    if name.isEmpty then inspectBareTuple items else "(" ++ commaSeparated items ++ ")"

/-- A name with fields in braces; without fields the name alone. -/
def inspectStruct (name : String) (fields : List String) : String :=
  if fields.isEmpty then name else name ++ " \x7b " ++ commaSeparated fields ++ " \x7d"

namespace Value

mutual

/-- The debugging text of a value; a leaf shows itself. -/
def inspect : Value String → String
  | .unit => "()"
  | .none => "None"
  | .some value => inspectTuple "Some" [value.inspect]
  | .bool value => if value then "true" else "false"
  | .int value => toString value
  | .double bits => inspectedNumbers.render .double (.ofBits .double bits.toNat)
  | .single bits => inspectedNumbers.render .single (.ofBits .single bits.toNat)
  | .char value => Text.quotedChar value
  | .string value => Text.quoted value
  | .bytes values => "[" ++ commaSeparated (values.map fun byte => toString byte.toNat) ++ "]"
  | .unitStruct name => name
  | .newtype name value => inspectTuple name [value.inspect]
  | .list items => "[" ++ commaSeparated (inspectItems items) ++ "]"
  | .tuple items => inspectBareTuple (inspectItems items)
  | .tupleStruct name items => inspectTuple name (inspectItems items)
  | .map entries => "\x7b" ++ commaSeparated (inspectEntries entries) ++ "\x7d"
  | .struct name fields => inspectStruct name (inspectFields fields)
  | .unitVariant _ variant => variant
  | .newtypeVariant _ variant value => inspectTuple variant [value.inspect]
  | .tupleVariant _ variant items => inspectTuple variant (inspectItems items)
  | .structVariant _ variant fields => inspectStruct variant (inspectFields fields)
  | .failing message => inspectTuple "Fail" [Text.quoted message]
  | .other text => text

/-- The debugging texts of the items of a list. -/
def inspectItems : List (Value String) → List String
  | [] => []
  | item :: rest => item.inspect :: inspectItems rest

/-- The debugging texts of the entries of a map. -/
def inspectEntries : List (Value String × Value String) → List String
  | [] => []
  | (key, value) :: rest => (key.inspect ++ ": " ++ value.inspect) :: inspectEntries rest

/-- The debugging texts of the fields of a struct. -/
def inspectFields : List (String × Value String) → List String
  | [] => []
  | (name, value) :: rest => (name ++ ": " ++ value.inspect) :: inspectFields rest

end

end Value

end RpcTelemetry.Payload
