import RpcTelemetry.Text.Numeral
import RpcTelemetry.Text.Pattern.Mode

/-!
# Atoms of patterns

The smallest parts of a pattern: characters, the dot, edges, and kinds of characters. A backslash
gives a character another meaning or, before a mark, takes its meaning away.
-/

namespace RpcTelemetry.Text.Pattern

/-- A character that stands for itself, and whether it was written by a code of two digits. Such a
code is the code of a byte where only the basic set counts. -/
structure Literal where
  char : Char
  byteCode : Bool
  deriving DecidableEq, Repr

namespace Literal

/-- A character written as it is. -/
def plain (c : Char) : Literal := ⟨c, false⟩

/-- Whether a literal is of the basic set. -/
def isBasic (literal : Literal) : Bool := literal.char.toNat < 0x80

/-- Whether a literal can stand in a pattern. To match either case in all scripts needs a table, and
a byte that is no character of the basic set is no text. -/
def isKnown (literal : Literal) (mode : Mode) : Bool :=
  if mode.allScripts then !mode.anyCase else literal.isBasic || !literal.byteCode

end Literal

/-- One of the smallest parts of a pattern. -/
inductive Atom where
  | literal (literal : Literal)
  /-- Any character. -/
  | dot
  /-- An edge of the text or of a line. -/
  | edge
  /-- An edge of a word, or no such edge. -/
  | wordEdge
  /-- A digit, a blank or a part of a word, or what is not. -/
  | kind (negated : Bool)
  deriving DecidableEq, Repr

/-- Whether an atom can stand in a pattern. Words and their kin need a table for all scripts, and
without one, what is not of the basic set is no text. -/
def Atom.isKnown (atom : Atom) (mode : Mode) : Bool :=
  match atom with
  | .literal c => c.isKnown mode
  | .dot => mode.allScripts
  | .edge => true
  | .wordEdge => !mode.allScripts
  | .kind negated => !mode.allScripts && !negated

/-! ## Escapes -/

/-- Reads as many characters as told; the mode skips around them. -/
def spread? (mode : Mode) : Nat → List Char → Option (List Char × List Char)
  | 0, text => some ([], mode.skip text)
  | count + 1, text =>
    match mode.skip text with
    | [] => none
    | c :: rest => (spread? mode count rest).map fun (read, rest) => (c :: read, rest)

/-- Reads a character by its code of `width` digits. -/
def coded? (mode : Mode) (width : Nat) (text : List Char) : Option (Atom × List Char) := do
  let (digits, rest) ← spread? mode width text
  let code ← natural? 16 digits
  if code.isValidChar then some (.literal ⟨Char.ofNat code, width = 2⟩, rest) else none

/-- Reads an escape after its backslash. Besides the named ones, only marks can be escaped. -/
def escape? (mode : Mode) : List Char → Option (Atom × List Char)
  | [] => none
  | 'x' :: rest => coded? mode 2 rest
  | 'u' :: rest => coded? mode 4 rest
  | 'U' :: rest => coded? mode 8 rest
  | c :: rest =>
    (if "dsw".toList.contains c then some (.kind false)
    else if "DSW".toList.contains c then some (.kind true)
    else if "Az".toList.contains c then some .edge
    else if "bB<>".toList.contains c then some .wordEdge
    else (escaped? c).map fun c => .literal (.plain c)).map (·, rest)
where
  /-- The character that is meant by another one behind a backslash. -/
  escaped? : Char → Option Char
    | 'a' => some '\x07'
    | 'f' => some '\x0c'
    | 't' => some '\t'
    | 'n' => some '\n'
    | 'r' => some '\r'
    | 'v' => some '\x0b'
    | c => if c.toNat < 0x80 ∧ !c.isAlphanum then some c else none

end RpcTelemetry.Text.Pattern
