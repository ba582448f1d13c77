import RpcTelemetry.Log
import RpcTelemetry.Text.Blank
import RpcTelemetry.Text.Bytes
import RpcTelemetry.Text.Pattern
import RpcTelemetry.Text.Split

/-!
# Log filters

A filter is a list of directives with commas between them. A directive gives a level to all targets
or to those that start with a text; it may ask for a field that an entry must have, or concern spans
only. Of several that concern an entry the most specific one counts.

A directive is a level, a target, or a target and a level with an equals sign between them. Between
target and level, a part in brackets names spans, and in braces inside of it a field, perhaps with
the value that it has in a span.
-/

namespace RpcTelemetry

open Text

namespace Log

/-- The least level that is let through; `none` lets nothing through. -/
abbrev Threshold := Option Level

/-- A level in words, in any case, or as a number from 0 for none to 5 for all. -/
def threshold? (text : List Char) : Option Threshold :=
  match (word? 10 64 text).map (·.toNat) with
  | some 0 => some none
  | some 1 => some (some .error)
  | some 2 => some (some .warn)
  | some 3 => some (some .info)
  | some 4 => some (some .debug)
  | some 5 => some (some .trace)
  | some _ => none
  | none =>
    match String.ofList (text.map Char.toLower) with
    | "error" => some (some .error)
    | "warn" => some (some .warn)
    | "info" => some (some .info)
    | "debug" => some (some .debug)
    | "trace" => some (some .trace)
    | "off" => some none
    | _ => none

/-- What a directive is for: the start of targets, if one is given, a field that entries must have,
if one is given, and whether it concerns spans alone. -/
structure Reach where
  target : Option (List Char)
  field : Option (List Char)
  spansOnly : Bool
  deriving DecidableEq, Repr

/-- All entries of all targets. -/
def Reach.all : Reach := ⟨none, none, false⟩

instance : Inhabited Reach := ⟨.all⟩

/-- A directive: what it is for, and the threshold there. -/
structure Directive where
  reach : Reach
  threshold : Threshold
  deriving DecidableEq, Repr

/-! ## Reading directives -/

/-- Whether a directive may start with a character. -/
def isDirectiveStart (c : Char) : Bool := c == '-' || c == ':' || c == '_' || isLetterOrNumber c

/-- The level at the end of a directive; an empty one lets everything through. -/
def lastLevel? (text : List Char) : Option Threshold :=
  if text.isEmpty then some (some .trace) else threshold? text

/-- The part of a directive behind its brackets. Its level is taken from the `whole` text, behind
the equals sign at `position`. -/
def behindBrackets? (whole : List Char) (position : Nat) (reach : Reach) :
    List Char → Option Directive
  | [] => some ⟨reach, some .trace⟩
  | '=' :: _ => (lastLevel? (dropBytes (position + 1) whole)).map (⟨reach, ·⟩)
  | _ => none

/-- The reach with a field. A field with a value concerns spans only; the value is a number or a
pattern. -/
def withField? (reach : Reach) (text : List Char) : Option Reach :=
  match parts '=' text with
  | name :: value :: _ =>
    if isReal value || isPattern value then
      some { reach with field := some name, spansOnly := true }
    else none
  | _ => some { reach with field := some text }

/-- The part of a directive from the bracket before `position` on; `rest` is what follows there. -/
def fromBracket? (whole : List Char) (position : Nat) (target : Option (List Char))
    (rest : List Char) : Option Directive :=
  let name := rest.takeWhile fun c => c ≠ ']' && c ≠ '\x7b'
  let position := position + byteCount name
  match rest.drop name.length with
  | ']' :: rest => behindBrackets? whole (position + 1) ⟨target, none, true⟩ rest
  | '\x7b' :: rest =>
    let field := rest.takeWhile (· ≠ '\x7d')
    match rest.drop field.length with
    | '\x7d' :: ']' :: rest =>
      if field.isEmpty then none
      else
        let text := takeBytes (byteCount field) (dropBytes (position + 1) whole)
        (withField? ⟨target, none, !name.isEmpty⟩ text).bind fun reach =>
          behindBrackets? whole (position + byteCount field + 3) reach rest
    | _ => none
  | _ => none

/-- Reads a directive. Its parts are found in the text without the blanks around it; what they hold
is taken from the whole text, at the same positions. -/
def directive? (whole : List Char) : Option Directive :=
  let text := trimBlanks whole
  match text with
  | [] => none
  | '[' :: rest => fromBracket? whole 1 none rest
  | first :: _ =>
    if !isDirectiveStart first then none
    else
      let target := text.takeWhile fun c => c ≠ '=' && c ≠ '['
      let position := byteCount target
      let reach : Reach := { Reach.all with target := some (takeBytes position whole) }
      match text.drop target.length with
      | '=' :: _ => (lastLevel? (dropBytes (position + 1) whole)).map (⟨reach, ·⟩)
      | '[' :: rest => fromBracket? whole (position + 1) reach.target rest
      | _ =>
        match threshold? whole with
        | some threshold => some ⟨.all, threshold⟩
        | none => some ⟨{ Reach.all with target := some whole }, some .trace⟩

/-- A list of directives. -/
abbrev Filter := List Directive

/-- The filter that is used if none is given: from `info` on. -/
def Filter.standard : Filter := [⟨.all, some .info⟩]

/-- Reads a filter; no text and one that cannot be read give the standard one, and a text without
directives lets errors through only. -/
def Filter.ofText : Option String → Filter
  | none => .standard
  | some text =>
    let directives := (parts ',' text.toList).filter fun part => !part.isEmpty
    match directives.mapM directive? with
    | none => .standard
    | some [] => [⟨.all, some .error⟩]
    | some filter => filter

/-! ## Using filters -/

/-- The names of the fields of an entry; its message is one of them. -/
def Entry.fieldNames (entry : Entry) : List String := "message" :: entry.fields.map (·.1)

/-- Whether a directive of some reach is for an entry. -/
def Reach.holds (reach : Reach) (entry : Entry) : Bool :=
  !reach.spansOnly && reach.target.all (fun lead => (dropLead? lead Log.target.toList).isSome) &&
    reach.field.all fun name => entry.fieldNames.contains (String.ofList name)

/-- Whether a reach is at least as specific as another one that holds of the same entry. The longer
target is more specific, and of equal ones the one with a field; two fields compare by their
characters. -/
def Reach.isAtLeast (reach other : Reach) : Bool :=
  let length (reach : Reach) := reach.target.elim 0 (·.length + 1)
  if length reach ≠ length other then length other < length reach
  else match other.field, reach.field with
    | none, _ => true
    | some _, none => false
    | some former, some next => !decide (next < former)

/-- The directive that counts for an entry, the last of equally specific ones. -/
def Filter.directiveFor (filter : Filter) (entry : Entry) : Option Directive :=
  (filter.filter (·.reach.holds entry)).foldl
    (fun best next => match best with
      | none => some next
      | some former => if next.reach.isAtLeast former.reach then some next else best)
    none

/-- Whether a filter lets an entry through. -/
def Filter.passes (filter : Filter) (entry : Entry) : Bool :=
  match filter.directiveFor entry with
  | some ⟨_, some least⟩ => least.severity ≤ entry.level.severity
  | _ => false

end Log

end RpcTelemetry
