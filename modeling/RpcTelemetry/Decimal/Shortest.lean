/-!
# The shortest decimal that reads back

A finite binary floating-point number stands for all real numbers that round to it. Among the
decimals of that interval, `shortest` picks one with the fewest significant digits, and of those
the nearest to the number. The search is exact: numbers are quotients of natural numbers.
-/

namespace RpcTelemetry.Decimal

/-- The widths of a binary floating-point format: bits of the fraction and of the exponent. -/
structure BinaryFormat where
  fractionBits : Nat
  exponentBits : Nat

namespace BinaryFormat

/-- The format with words of 64 bits. -/
def double : BinaryFormat := ⟨52, 11⟩

/-- The format with words of 32 bits. -/
def single : BinaryFormat := ⟨23, 8⟩

/-- The exponent of the last place of the smallest numbers. -/
def leastExponent (format : BinaryFormat) : Int :=
  2 - (1 <<< (format.exponentBits - 1) : Nat) - format.fractionBits

end BinaryFormat

/-- What the bits of a floating-point word stand for; a finite value is
`significand * 2 ^ exponent`. -/
inductive Binary where
  | nan
  | infinite (negative : Bool)
  | finite (negative : Bool) (significand : Nat) (exponent : Int)
  deriving DecidableEq, Repr

/-- Whether a value is a number with digits. -/
def Binary.isFinite : Binary → Bool
  | .finite _ _ _ => true
  | _ => false

/-- The value of a floating-point word. -/
def Binary.ofBits (format : BinaryFormat) (bits : Nat) : Binary :=
  let fraction := bits % (1 <<< format.fractionBits)
  let exponent := (bits >>> format.fractionBits) % (1 <<< format.exponentBits)
  let negative := (bits >>> (format.fractionBits + format.exponentBits)) % 2 == 1
  if exponent + 1 = 1 <<< format.exponentBits then
    if fraction = 0 then .infinite negative else .nan
  else if exponent = 0 then .finite negative fraction format.leastExponent
  else
    .finite negative (fraction + (1 <<< format.fractionBits)) (format.leastExponent + exponent - 1)

/-- What happens to a number halfway between two decimals of equal length. -/
inductive Tie where
  | toEven
  | up
  deriving DecidableEq, Repr

/-- A positive decimal: its significant digits as a number, their count, and the power of ten of
the first of them. -/
structure Digits where
  value : Nat
  count : Nat
  exponent : Int
  deriving DecidableEq, Repr

/-- The number of decimal digits of a number; zero has none. -/
def digitCount (n : Nat) : Nat :=
  if n = 0 then 0 else digitCount (n / 10) + 1

/-- `n * base ^ e` for a whole exponent, as a quotient. -/
def scaled (base n : Nat) (e : Int) : Nat × Nat :=
  if 0 ≤ e then (n * base.pow e.toNat, 1) else (n, base.pow (-e).toNat)

/-- The power of ten of the first digit of the positive number `num / den`. -/
def leadingExponent (num den : Nat) : Int :=
  let guess : Int := (digitCount num : Int) - digitCount den
  let (top, bottom) := scaled 10 1 guess
  if num * bottom < top * den then guess - 1 else guess

/-- An interval of positive numbers around a binary number; all three have the denominator `den`,
and the ends belong to it if `closed`. -/
structure Interval where
  low : Nat
  middle : Nat
  high : Nat
  den : Nat
  closed : Bool

/-- The numbers that round to `significand * 2 ^ exponent`. Its lower neighbour is half as far away
as the upper one where the exponent changes between them; the ends round to it if its significand
is even. -/
def Interval.around (format : BinaryFormat) (significand : Nat) (exponent : Int) : Interval :=
  let narrow := significand = 1 <<< format.fractionBits ∧ format.leastExponent < exponent
  let (unit, den) := scaled 2 1 (exponent - 2)
  { low := (4 * significand - if narrow then 1 else 2) * unit
    middle := 4 * significand * unit
    high := (4 * significand + 2) * unit
    den := den
    closed := significand % 2 == 0 }

/-- Whether the quotient `num / den` lies in the interval. -/
def Interval.contains (i : Interval) (num den : Nat) : Bool :=
  let value := num * i.den
  if i.closed then i.low * den ≤ value && value ≤ i.high * den
  else i.low * den < value && value < i.high * den

/-- The nearest number of `count` digits in the interval whose middle has its first digit at
`exponent`, if there is one. -/
def Interval.nearest? (i : Interval) (tie : Tie) (exponent : Int) (count : Nat) : Option Digits :=
  let place := exponent - count + 1
  let (unit, unitDen) := scaled 10 1 place
  let lower := i.middle * unitDen / (i.den * unit)
  let inside (n : Nat) : Bool := 0 < n && i.contains (n * unit) unitDen
  let digits (n : Nat) : Digits :=
    if n = Nat.pow 10 count then ⟨Nat.pow 10 (count - 1), count, exponent + 1⟩
    else ⟨n, count, exponent⟩
  let distanceTwice := 2 * (i.middle * unitDen - lower * unit * i.den)
  let step := unit * i.den
  let preferUpper :=
    step < distanceTwice || step = distanceTwice && (tie = .up || lower % 2 = 1)
  match inside lower, inside (lower + 1) with
  | true, true => some (digits (if preferUpper then lower + 1 else lower))
  | true, false => some (digits lower)
  | false, true => some (digits (lower + 1))
  | false, false => none

/-- Tries `count`, `count + 1`, … digits, `more` times at most. -/
def Interval.search (i : Interval) (tie : Tie) (exponent : Int) : Nat → Nat → Option Digits
  | 0, _ => none
  | more + 1, count =>
    match i.nearest? tie exponent count with
    | some digits => some digits
    | none => i.search tie exponent more (count + 1)

/-- The shortest decimal that reads back as the positive number `significand * 2 ^ exponent`.
Seventeen digits are enough for every number of the formats in use. -/
def shortest (format : BinaryFormat) (tie : Tie) (significand : Nat) (exponent : Int) : Digits :=
  let i := Interval.around format significand exponent
  (i.search tie (leadingExponent i.middle i.den) 17 1).getD ⟨0, 1, 0⟩

end RpcTelemetry.Decimal
