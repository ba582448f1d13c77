/-!
# Blanks

The characters that count as white space in any script, and texts without them at their ends.
-/

namespace RpcTelemetry.Text

/-- The ranges of the blanks, in increasing order. -/
def blankRanges : List (Nat × Nat) := [
  (0x0009, 0x000d), (0x0020, 0x0020), (0x0085, 0x0085), (0x00a0, 0x00a0), (0x1680, 0x1680),
  (0x2000, 0x200a), (0x2028, 0x2029), (0x202f, 0x202f), (0x205f, 0x205f), (0x3000, 0x3000)]

/-- Whether a character is white space. -/
def isBlank (c : Char) : Bool :=
  blankRanges.any fun (first, last) => first ≤ c.toNat && c.toNat ≤ last

/-- A text without the blanks in front. -/
def trimFront (text : List Char) : List Char := text.dropWhile isBlank

/-- A text without the blanks around it. -/
def trimBlanks (text : List Char) : List Char := (trimFront (trimFront text).reverse).reverse

end RpcTelemetry.Text
