/-!
# Positions in bytes

A text takes one to four bytes for a character. Here it is cut at a position that is counted in
bytes; a position inside a character stands for the one behind it.
-/

namespace RpcTelemetry.Text

/-- The number of bytes that a text takes. -/
def byteCount : List Char → Nat
  | [] => 0
  | c :: rest => c.utf8Size + byteCount rest

/-- The text up to a position. -/
def takeBytes : Nat → List Char → List Char
  | 0, _ => []
  | _, [] => []
  | count, c :: rest => c :: takeBytes (count - c.utf8Size) rest

/-- The text from a position on. -/
def dropBytes : Nat → List Char → List Char
  | 0, text => text
  | _, [] => []
  | count, c :: rest => dropBytes (count - c.utf8Size) rest

end RpcTelemetry.Text
