/-!
# Values of messages

`Value α` is the data model of message payloads: scalars, optional values, lists, tuples, maps and
the four shapes of structs and of enum variants. A leaf of type `α` stands for what the model cannot
express; payloads that are to be serialised have none (`Value Empty`).
-/

namespace RpcTelemetry.Payload

/-- A value of the data model. Floating-point numbers are given by their bits; maps keep the order
of their entries and repeated keys. -/
inductive Value (α : Type) where
  | unit
  | none
  | some (value : Value α)
  | bool (value : Bool)
  | int (value : Int)
  | double (bits : UInt64)
  | single (bits : UInt32)
  | char (value : Char)
  | string (value : String)
  | bytes (values : List UInt8)
  | unitStruct (name : String)
  | newtype (name : String) (value : Value α)
  | list (items : List (Value α))
  | tuple (items : List (Value α))
  | tupleStruct (name : String) (items : List (Value α))
  | map (entries : List (Value α × Value α))
  | struct (name : String) (fields : List (String × Value α))
  | unitVariant (enumeration variant : String)
  | newtypeVariant (enumeration variant : String) (value : Value α)
  | tupleVariant (enumeration variant : String) (items : List (Value α))
  | structVariant (enumeration variant : String) (fields : List (String × Value α))
  | failing (message : String)
  | other (leaf : α)

end RpcTelemetry.Payload
