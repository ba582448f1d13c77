import RpcTelemetry.Text.Alphabetic
import RpcTelemetry.Text.Pattern.Class

/-!
# Trees of patterns

The structure of a pattern: what is repeated, grouped, put in sequence or left to choice. Atoms and
classes stand with the mode that holds where they are. Counts in braces are not known.
-/

namespace RpcTelemetry.Text.Pattern

/-- A pattern by its structure. -/
inductive Tree where
  | empty
  /-- Flags for what follows. -/
  | flags
  | atom (mode : Mode) (atom : Atom)
  | ofClass (mode : Mode) (body : CharClass)
  | repeated (body : Tree)
  | group (body : Tree)
  /-- At least two parts one after another. -/
  | sequence (parts : List Tree)
  /-- At least two alternatives. -/
  | choice (branches : List Tree)

namespace Tree

mutual

/-- How deep a pattern is nested. -/
def depth : Tree → Nat
  | ofClass _ body => body.depth
  | repeated body => body.depth + 1
  | group body => body.depth + 1
  | sequence parts => depths parts + 1
  | choice branches => depths branches + 1
  | _ => 0

/-- The depth of the deepest of several patterns. -/
def depths : List Tree → Nat
  | [] => 0
  | part :: rest => max part.depth (depths rest)

end

mutual

/-- Whether all parts of a pattern can stand in it. -/
def isKnown : Tree → Bool
  | empty => true
  | flags => true
  | atom mode part => part.isKnown mode
  | ofClass mode body => body.isKnown mode
  | repeated body => body.isKnown
  | group body => body.isKnown
  | sequence parts => areKnown parts
  | choice branches => areKnown branches

/-- Whether several patterns are known. -/
def areKnown : List Tree → Bool
  | [] => true
  | part :: rest => part.isKnown && areKnown rest

end

/-- The pattern of some parts. -/
def ofParts : List Tree → Tree
  | [] => empty
  | [part] => part
  | parts => sequence parts

/-! ## Groups -/

/-- Whether a text can be the name of a group. -/
def isGroupName : List Char → Bool
  | [] => false
  | c :: rest =>
    (c == '_' || isAlphabetic c) &&
      rest.all fun c => c == '_' || c == '.' || c == '[' || c == ']' || isLetterOrNumber c

/-- What stands after an opening parenthesis: a group, perhaps with a name, for which flags are
changed, or a change for what follows. -/
inductive Opening where
  | group (name : Option (List Char)) (change : FlagChange)
  | flags (change : FlagChange)
  deriving DecidableEq, Repr

/-- Reads the name of a group. -/
def namedGroup? (text : List Char) : Option (Opening × List Char) :=
  let name := text.takeWhile (· ≠ '>')
  match text.drop name.length with
  | _ :: rest => if isGroupName name then some (.group (some name) ⟨[], []⟩, rest) else none
  | [] => none

/-- Reads what stands after an opening parenthesis. -/
def opening? : List Char → Option (Opening × List Char)
  | '?' :: 'P' :: '<' :: rest => namedGroup? rest
  | '?' :: '<' :: rest => namedGroup? rest
  | '?' :: text =>
    let letters := text.takeWhile fun c => c ≠ ':' && c ≠ ')'
    (FlagChange.ofText? letters).bind fun change =>
      match text.drop letters.length with
      | ':' :: rest => some (.group none change, rest)
      | ')' :: rest => if letters.isEmpty then none else some (.flags change, rest)
      | _ => none
  | text => some (.group none ⟨[], []⟩, text)

/-! ## Reading patterns -/

/-- A group that is being read, or the whole pattern: its mode, the names given so far in the
pattern, its alternatives, and the parts of the last one, both in reverse. -/
structure Frame where
  mode : Mode
  names : List (List Char)
  branches : List Tree
  parts : List Tree

namespace Frame

/-- Adds a part. -/
def push (frame : Frame) (part : Tree) : Frame := { frame with parts := part :: frame.parts }

/-- Ends an alternative. -/
def branch (frame : Frame) : Frame :=
  { frame with branches := ofParts frame.parts.reverse :: frame.branches, parts := [] }

/-- Repeats the last part, if there is one. Flags cannot be repeated. -/
def repeat? (frame : Frame) : Option Frame :=
  match frame.parts with
  | [] => none
  | .flags :: _ => none
  | part :: parts => some { frame with parts := repeated part :: parts }

/-- What was read. -/
def close (frame : Frame) : Tree :=
  match frame.branches with
  | [] => ofParts frame.parts.reverse
  | _ => choice frame.branch.branches.reverse

/-- Starts a group, unless its name was given before. -/
def enter? (frame : Frame) (name : Option (List Char)) (change : FlagChange) : Option Frame :=
  if name.any frame.names.contains then none
  else some ⟨frame.mode.change change, name.toList ++ frame.names, [], []⟩

/-- Goes on after a group, in the mode before it. -/
def leave (frame inner : Frame) : Frame :=
  { frame with names := inner.names, parts := group inner.close :: frame.parts }

end Frame

/-- Reads an atom. -/
def atom? (mode : Mode) : List Char → Option (Atom × List Char)
  | [] => none
  | '\\' :: rest => escape? mode rest
  | '\x7b' :: _ => none
  | '.' :: rest => some (.dot, rest)
  | '^' :: rest => some (.edge, rest)
  | '$' :: rest => some (.edge, rest)
  | c :: rest => some (.literal (.plain c), rest)

/-- Reads on to the closing parenthesis of a group, or to the end of the text. -/
def read? : Nat → Frame → List Char → Option (Frame × List Char)
  | 0, _, _ => none
  | fuel + 1, frame, text =>
    match frame.mode.skip text with
    | [] => some (frame, [])
    | c :: rest =>
      if c = ')' then some (frame, c :: rest)
      else if c = '|' then read? fuel frame.branch rest
      else if c = '(' then
        match opening? (frame.mode.skip rest) with
        | none => none
        | some (.flags change, rest) =>
          read? fuel ({ frame with mode := frame.mode.change change }.push flags) rest
        | some (.group name change, rest) =>
          match (frame.enter? name change).bind (read? fuel · rest) with
          | some (inner, _ :: rest) => read? fuel (frame.leave inner) rest
          | _ => none
      else if c = '[' then
        match CharClass.ofText? frame.mode rest with
        | none => none
        | some (body, rest) => read? fuel (frame.push (ofClass frame.mode body)) rest
      else if c = '?' ∨ c = '*' ∨ c = '+' then
        let rest := if rest.head? = some '?' then rest.tail else rest
        match frame.repeat? with
        | none => none
        | some frame => read? fuel frame rest
      else
        match atom? frame.mode (c :: rest) with
        | none => none
        | some (part, rest) => read? fuel (frame.push (atom frame.mode part)) rest

/-- Reads a pattern. -/
def ofText? (text : List Char) : Option Tree :=
  match read? (text.length + 1) ⟨.initial, [], [], []⟩ text with
  | some (frame, []) => some frame.close
  | _ => none

end Tree

end RpcTelemetry.Text.Pattern
