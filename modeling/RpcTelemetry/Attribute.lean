/-!
# Attributes

Spans, span events and measurements carry lists of attributes. The lists keep their order and any
repeated key; `find?` sees the first attribute of a key.
-/

namespace RpcTelemetry

/-- The value of an attribute. -/
inductive AttributeValue where
  | text (value : String)
  | int (value : Int)
  deriving DecidableEq, Repr

/-- A named value. -/
structure Attribute where
  key : String
  value : AttributeValue
  deriving DecidableEq, Repr

namespace Attribute

/-- An attribute with a text as its value. -/
def ofText (key value : String) : Attribute := ⟨key, .text value⟩

/-- An attribute with a number as its value. -/
def ofInt (key : String) (value : Int) : Attribute := ⟨key, .int value⟩

/-- The value of the first attribute with the key. -/
def find? (key : String) (attributes : List Attribute) : Option AttributeValue :=
  (attributes.find? (·.key = key)).map (·.value)

/-- A size or an ordinal as an attribute value: at most the largest signed number of 64 bits. -/
def saturated (value : UInt64) : Int := min (value.toNat : Int) Int64.maxValue.toInt

end Attribute

end RpcTelemetry
