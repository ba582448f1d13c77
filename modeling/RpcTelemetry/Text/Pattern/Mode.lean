import RpcTelemetry.Text.Blank

/-!
# Modes of patterns

A pattern is read in a mode, which flags inside of it change. In the spaced mode blanks mean
nothing, and neither does the rest of a line after a number sign.
-/

namespace RpcTelemetry.Text.Pattern

/-- What flags are about. -/
inductive Flag where
  /-- Letters stand for either case. -/
  | anyCase
  /-- The edges of lines count as edges. -/
  | lines
  /-- The dot stands for line ends too. -/
  | lineEnds
  /-- Repetitions match as little as they can. -/
  | reluctant
  /-- Characters of all scripts count, not only those of the basic set. -/
  | allScripts
  /-- Lines may end with a carriage return. -/
  | returns
  /-- Blanks mean nothing. -/
  | spaced
  deriving DecidableEq, Repr

/-- The flag that a letter stands for. -/
def Flag.ofChar? : Char → Option Flag
  | 'i' => some .anyCase
  | 'm' => some .lines
  | 's' => some .lineEnds
  | 'U' => some .reluctant
  | 'u' => some .allScripts
  | 'R' => some .returns
  | 'x' => some .spaced
  | _ => none

/-- A change of flags: those that are set and those that are taken back. -/
structure FlagChange where
  on : List Flag
  off : List Flag
  deriving DecidableEq, Repr

/-- Reads a change: the letters of the flags that are set, and behind a hyphen at least one that is
taken back. No flag may occur twice. -/
def FlagChange.ofText? (text : List Char) : Option FlagChange := do
  let on ← (text.takeWhile (· ≠ '-')).mapM Flag.ofChar?
  let off ← match text.dropWhile (· ≠ '-') with
    | [] => some []
    | _ :: rest => if rest.isEmpty then none else rest.mapM Flag.ofChar?
  if (on ++ off).eraseDups = on ++ off then some ⟨on, off⟩ else none

/-- A flag after a change, if it was `before`. -/
def FlagChange.apply (change : FlagChange) (flag : Flag) (before : Bool) : Bool :=
  change.on.contains flag || (before && !change.off.contains flag)

/-- The flags that bear on which patterns there are. -/
structure Mode where
  anyCase : Bool
  allScripts : Bool
  spaced : Bool
  deriving DecidableEq, Repr

namespace Mode

/-- The mode at the start of a pattern. -/
def initial : Mode := ⟨false, true, false⟩

instance : Inhabited Mode := ⟨initial⟩

/-- The mode after a change of flags. -/
def change (mode : Mode) (change : FlagChange) : Mode where
  anyCase := change.apply .anyCase mode.anyCase
  allScripts := change.apply .allScripts mode.allScripts
  spaced := change.apply .spaced mode.spaced

/-- The text without the blanks and comments in front; in a comment it is first left to its line's
end. -/
def dropSpace : Bool → List Char → List Char
  | _, [] => []
  | true, c :: rest => dropSpace (c ≠ '\n') rest
  | false, c :: rest =>
    if isBlank c then dropSpace false rest
    else if c = '#' then dropSpace true rest
    else c :: rest

/-- The text from the next character on that means something. -/
def skip (mode : Mode) (text : List Char) : List Char :=
  if mode.spaced then dropSpace false text else text

/-- The character that comes next, blanks and one number sign apart; where nothing else follows they
count themselves. -/
def peek? (mode : Mode) (text : List Char) : Option Char :=
  if mode.spaced then
    let later := match text.dropWhile isBlank with
      | '#' :: rest => rest.dropWhile isBlank
      | later => later
    later.head?.or text.head?
  else text.head?

end Mode

end RpcTelemetry.Text.Pattern
