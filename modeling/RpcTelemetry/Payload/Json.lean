import RpcTelemetry.Text.Numeral

/-!
# JSON documents

A document is a tree that keeps the order and repetition of object members and the spelling of its
numbers. `Json.pretty` writes it over several lines, two spaces deeper at each level; empty arrays
and objects stay on one line.
-/

namespace RpcTelemetry.Payload

/-- A JSON document. -/
inductive Json where
  | null
  | bool (value : Bool)
  | number (spelling : List Char)
  | string (value : List Char)
  | array (items : List Json)
  | object (members : List (List Char × Json))

namespace Json

/-- One character of a string: quote, backslash and control characters are escaped. -/
def escaped (c : Char) : List Char :=
  if c = '"' then ['\\', '"']
  else if c = '\\' then ['\\', '\\']
  else if c = '\x08' then ['\\', 'b']
  else if c = '\x0c' then ['\\', 'f']
  else if c = '\n' then ['\\', 'n']
  else if c = '\r' then ['\\', 'r']
  else if c = '\t' then ['\\', 't']
  else if c.toNat < 0x20 then ['\\', 'u'] ++ Text.hexPadded 4 c.toNat
  else [c]

/-- A string in quotes. -/
def quoted (text : List Char) : List Char := ['"'] ++ text.flatMap escaped ++ ['"']

/-- The start of a line at a level of nesting. -/
def newline (level : Nat) : List Char := '\n' :: List.replicate (2 * level) ' '

mutual

/-- A document whose first line continues a line at `level`. -/
def render (level : Nat) : Json → List Char
  | .null => ['n', 'u', 'l', 'l']
  | .bool true => ['t', 'r', 'u', 'e']
  | .bool false => ['f', 'a', 'l', 's', 'e']
  | .number spelling => spelling
  | .string value => quoted value
  | .array [] => ['[', ']']
  | .array (item :: rest) =>
    ['['] ++ newline (level + 1) ++ render (level + 1) item ++ renderItems (level + 1) rest ++
      newline level ++ [']']
  | .object [] => ['\x7b', '\x7d']
  | .object ((key, value) :: rest) =>
    ['\x7b'] ++ newline (level + 1) ++ quoted key ++ [':', ' '] ++ render (level + 1) value ++
      renderMembers (level + 1) rest ++ newline level ++ ['\x7d']

/-- The items after the first one, each on a line of its own. -/
def renderItems (level : Nat) : List Json → List Char
  | [] => []
  | item :: rest => [','] ++ newline level ++ render level item ++ renderItems level rest

/-- The members after the first one, each on a line of its own. -/
def renderMembers (level : Nat) : List (List Char × Json) → List Char
  | [] => []
  | (key, value) :: rest =>
    [','] ++ newline level ++ quoted key ++ [':', ' '] ++ render level value ++
      renderMembers level rest

end

/-- The text of a document. -/
def pretty (document : Json) : String := String.ofList (document.render 0)

end Json

end RpcTelemetry.Payload
