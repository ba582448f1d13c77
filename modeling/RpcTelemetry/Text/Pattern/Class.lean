import RpcTelemetry.Text.Pattern.Atom
import RpcTelemetry.Text.Split

/-!
# Classes in brackets

A class stands for one of several characters. Its members are characters, ranges, kinds, named
classes and classes again; two classes are combined by a doubled mark between them.
-/

namespace RpcTelemetry.Text.Pattern

/-- A class, or a part of one. -/
inductive CharClass where
  | empty
  | literal (literal : Literal)
  | range (first last : Literal)
  | kind (negated : Bool)
  /-- A class with a name. -/
  | named (negated : Bool)
  | bracket (negated : Bool) (body : CharClass)
  /-- At least two members beside each other. -/
  | union (members : List CharClass)
  /-- What two classes share, what one has beyond the other, or what only one of them has. -/
  | combined (left right : CharClass)

namespace CharClass

mutual

/-- How deep a class is nested. -/
def depth : CharClass → Nat
  | bracket _ body => body.depth + 1
  | union members => depths members + 1
  | combined left right => max left.depth right.depth + 1
  | _ => 0

/-- The depth of the deepest of several classes. -/
def depths : List CharClass → Nat
  | [] => 0
  | member :: rest => max member.depth (depths rest)

end

mutual

/-- Whether a class can stand in a pattern. To match either case in all scripts needs a table; where
only the basic set counts, nothing else may be a member. -/
def isKnown (mode : Mode) : CharClass → Bool
  | empty => true
  | literal c => if mode.allScripts then !mode.anyCase else c.isBasic
  | range first last =>
    if mode.allScripts then !mode.anyCase else first.isBasic && last.isBasic
  | kind negated => (Atom.kind negated).isKnown mode
  | named negated => if mode.allScripts then !mode.anyCase else !negated
  | bracket negated body => (mode.allScripts || !negated) && body.isKnown mode
  | union members => areKnown mode members
  | combined left right => left.isKnown mode && right.isKnown mode

/-- Whether several classes can stand in a pattern. -/
def areKnown (mode : Mode) : List CharClass → Bool
  | [] => true
  | member :: rest => member.isKnown mode && areKnown mode rest

end

/-! ## Reading classes -/

/-- The names that a class can have. -/
def names : List String :=
  ["alnum", "alpha", "ascii", "blank", "cntrl", "digit", "graph", "lower", "print", "punct",
    "space", "upper", "word", "xdigit"]

/-- Reads a named class such as `[:alpha:]` after its opening bracket. -/
def named? : List Char → Option (CharClass × List Char)
  | ':' :: text =>
    let (negated, text) := match text with
      | '^' :: rest => (true, rest)
      | _ => (false, text)
    let name := text.takeWhile (· ≠ ':')
    match text.drop name.length with
    | ':' :: ']' :: rest =>
      if names.contains (String.ofList name) then some (.named negated, rest) else none
    | _ => none
  | _ => none

/-- Reads one character or kind. -/
def item? (mode : Mode) : List Char → Option (Atom × List Char)
  | [] => none
  | '\\' :: rest => escape? mode rest
  | c :: rest => some (.literal (.plain c), rest)

/-- The member that an atom is, if it can be one. -/
def ofAtom? : Atom → Option CharClass
  | .literal c => some (.literal c)
  | .kind negated => some (.kind negated)
  | _ => none

/-- The range from one atom to another: of characters in increasing order. -/
def range? : Atom → Atom → Option CharClass
  | .literal first, .literal last =>
    if first.char ≤ last.char then some (.range first last) else none
  | _, _ => none

/-- Reads a character, a kind or a range. A hyphen before the end or before another hyphen makes no
range. -/
def member? (mode : Mode) (text : List Char) : Option (CharClass × List Char) := do
  let (first, rest) ← item? mode text
  match mode.skip rest with
  | '-' :: after =>
    if mode.peek? after = some ']' ∨ mode.peek? after = some '-' then
      return (← ofAtom? first, '-' :: after)
    let (last, rest) ← item? mode (mode.skip after)
    return (← range? first last, rest)
  | rest => return (← ofAtom? first, rest)

/-- The class of some members, the last one first. -/
def ofMembers (members : List CharClass) : CharClass :=
  match members with
  | [] => .empty
  | [member] => member
  | _ => .union members.reverse

/-- A class with what stands left of it, if it is combined with something. -/
def joined (left : Option CharClass) (members : List CharClass) : CharClass :=
  match left with
  | none => ofMembers members
  | some left => .combined left (ofMembers members)

/-- Whether a class is negated, and the text of its members, after its opening bracket. -/
def negation (mode : Mode) (text : List Char) : Bool × List Char :=
  match mode.skip text with
  | '^' :: rest => (true, rest)
  | text => (false, text)

/-- Reads a class to its closing bracket, after the `members` read so far and what stands `left` of
them. At the start hyphens stand for themselves, and so does a closing bracket before all else. -/
def body? (mode : Mode) : Nat → Bool → Option CharClass → List CharClass → List Char →
    Option (CharClass × List Char)
  | 0, _, _, _, _ => none
  | fuel + 1, atStart, left, members, text =>
    match mode.skip text with
    | [] => none
    | c :: rest =>
      if atStart ∧ c = '-' then
        body? mode fuel true left (.literal (.plain c) :: members) rest
      else if atStart ∧ members.isEmpty ∧ c = ']' then
        body? mode fuel false left [.literal (.plain c)] rest
      else if c = ']' then some (joined left members, rest)
      else if c = '[' then
        match named? rest with
        | some (member, rest) => body? mode fuel false left (member :: members) rest
        | none =>
          let (negated, rest) := negation mode rest
          match body? mode fuel true none [] rest with
          | none => none
          | some (body, rest) =>
            body? mode fuel false left (.bracket negated body :: members) rest
      else if (c = '&' ∨ c = '-' ∨ c = '~') ∧ rest.head? = some c then
        body? mode fuel false (some (joined left members)) [] rest.tail
      else
        match member? mode (c :: rest) with
        | none => none
        | some (member, rest) => body? mode fuel false left (member :: members) rest

/-- Reads a class after its opening bracket. -/
def ofText? (mode : Mode) (text : List Char) : Option (CharClass × List Char) :=
  let (negated, rest) := negation mode text
  (body? mode (rest.length + 1) true none [] rest).map fun (body, rest) =>
    (.bracket negated body, rest)

end CharClass

end RpcTelemetry.Text.Pattern
