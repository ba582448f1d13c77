import RpcTelemetry.Decimal.Shortest

/-!
# Writing floating-point numbers

A `Layout` says which numbers are written positionally and how an exponent looks; `Layout.render`
writes the shortest digits accordingly. A positional number always has a fraction.
-/

namespace RpcTelemetry.Decimal

/-- The choices in the text of a floating-point number. -/
structure Layout where
  /-- The least power of ten of the first digit that is written positionally. -/
  least : Int
  /-- The power of ten of the first digit from which on an exponent is written. -/
  bound : Int
  /-- What stands before an exponent that is not negative. -/
  exponentSign : List Char
  tie : Tie
  nan : String
  infinity : String

/-- The decimal digits of a number, filled with zeros in front to `count` places. -/
def paddedDigits (count value : Nat) : List Char :=
  let digits := Nat.toDigits 10 value
  List.replicate (count - digits.length) '0' ++ digits

/-- A decimal without an exponent, with at least one digit on either side of the point. -/
def positional (d : Digits) : List Char :=
  let digits := paddedDigits d.count d.value
  if d.exponent < 0 then
    ['0', '.'] ++ List.replicate (-d.exponent - 1).toNat '0' ++ digits
  else
    let whole := d.exponent.toNat + 1
    let front := digits.take whole ++ List.replicate (whole - d.count) '0'
    let back := digits.drop whole
    front ++ ['.'] ++ (if back.isEmpty then ['0'] else back)

/-- A decimal with one digit before the point and an exponent. -/
def scientific (exponentSign : List Char) (d : Digits) : List Char :=
  let digits := paddedDigits d.count d.value
  let mantissa := match digits with
    | [] => []
    | [only] => [only]
    | first :: rest => first :: '.' :: rest
  let exponent :=
    if d.exponent < 0 then '-' :: Nat.toDigits 10 (-d.exponent).toNat
    else exponentSign ++ Nat.toDigits 10 d.exponent.toNat
  mantissa ++ ['e'] ++ exponent

/-- The text of a floating-point number. -/
def Layout.render (layout : Layout) (format : BinaryFormat) : Binary → String
  | .nan => layout.nan
  | .infinite negative => signed negative layout.infinity
  | .finite negative 0 _ => signed negative "0.0"
  | .finite negative significand exponent =>
    let d := shortest format layout.tie significand exponent
    signed negative <| String.ofList <|
      if layout.least ≤ d.exponent ∧ d.exponent < layout.bound then positional d
      else scientific layout.exponentSign d
where
  /-- The text with a minus sign in front of a negative number. -/
  signed (negative : Bool) (text : String) : String :=
    if negative then "-" ++ text else text

end RpcTelemetry.Decimal
