import RpcTelemetry.Text.Hidden

/-!
# Quoted text for debugging

A string stands between double quotes and a character between single ones. The quote itself, the
backslash, NUL, tab, carriage return and line feed have short escapes; every other hidden character
is written by its code point, and all else stands for itself.
-/

namespace RpcTelemetry.Text

/-- One character of a text between two `quote` characters. -/
def escaped (quote c : Char) : List Char :=
  if c = '\x00' then ['\\', '0']
  else if c = '\t' then ['\\', 't']
  else if c = '\r' then ['\\', 'r']
  else if c = '\n' then ['\\', 'n']
  else if c = '\\' ∨ c = quote then ['\\', c]
  else if isHidden c then ['\\', 'u', '\x7b'] ++ Nat.toDigits 16 c.toNat ++ ['\x7d']
  else [c]

/-- A string as a debugging text shows it. -/
def quoted (text : String) : String :=
  String.ofList (['"'] ++ text.toList.flatMap (escaped '"') ++ ['"'])

/-- A single character as a debugging text shows it. -/
def quotedChar (c : Char) : String :=
  String.ofList (['\''] ++ escaped '\'' c ++ ['\''])

end RpcTelemetry.Text
