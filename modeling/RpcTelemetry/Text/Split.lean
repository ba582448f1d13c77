/-!
# Cutting text at a separator

Characters are cut at the first or the last separator, or at all of them. Each cut is pinned down
by what it loses, which is nothing but the separator, and by which part is free of it.

Main statements:

- `cutFirst_append` and `eq_append_of_cutFirst`, `cutLast_eq_some_iff`: a cut is the one
  decomposition whose first (last) part has no separator;
- `cutLast_eq_none_iff`: there is no cut exactly if there is no separator;
- `parts_intercalate`: taking apart undoes joining where the parts have no separator.
-/

namespace RpcTelemetry.Text

/-- The parts before and after the first separator, if there is one. -/
def cutFirst (sep : Char) : List Char → Option (List Char × List Char)
  | [] => none
  | c :: rest =>
    if c = sep then some ([], rest)
    else (cutFirst sep rest).map fun (before, after) => (c :: before, after)

/-- The parts before and after the last separator, if there is one. -/
def cutLast (sep : Char) : List Char → Option (List Char × List Char)
  | [] => none
  | c :: rest =>
    match cutLast sep rest with
    | some (before, after) => some (c :: before, after)
    | none => if c = sep then some ([], rest) else none

/-- All parts between the separators: one more than there are separators. -/
def parts (sep : Char) : List Char → List (List Char)
  | [] => [[]]
  | c :: rest =>
    if c = sep then [] :: parts sep rest
    else match parts sep rest with
      | [] => [[c]]
      | part :: others => (c :: part) :: others

/-- The parts of a text in which every part may be followed by a separator, so that an empty part
after the last separator does not count. -/
def terminatedParts (sep : Char) (text : List Char) : List (List Char) :=
  let all := parts sep text
  if all.getLast? = some [] then all.dropLast else all

/-- A text without the blanks around it. -/
def trimSpaces (text : List Char) : List Char :=
  ((text.dropWhile (· = ' ')).reverse.dropWhile (· = ' ')).reverse

/-- The rest of a text after a leading part, if it starts with that part. -/
def dropLead? : List Char → List Char → Option (List Char)
  | [], text => some text
  | _ :: _, [] => none
  | l :: lead, c :: text => if l = c then dropLead? lead text else none

theorem dropLead?_eq_some_iff {lead text rest : List Char} :
    dropLead? lead text = some rest ↔ text = lead ++ rest := by
  induction lead generalizing text with
  | nil => simp [dropLead?]
  | cons l lead ih =>
    cases text with
    | nil => simp [dropLead?]
    | cons c text => by_cases same : l = c <;> simp [dropLead?, same, ih, eq_comm]

theorem cutFirst_append {sep : Char} {before : List Char} (free : sep ∉ before)
    (after : List Char) : cutFirst sep (before ++ sep :: after) = some (before, after) := by
  induction before with
  | nil => simp [cutFirst]
  | cons b before ih =>
    obtain ⟨other, free⟩ : ¬sep = b ∧ sep ∉ before := by simpa using free
    simp [cutFirst, Ne.symm other, ih free]

theorem eq_append_of_cutFirst {sep : Char} {text before after : List Char}
    (cut : cutFirst sep text = some (before, after)) :
    text = before ++ sep :: after ∧ sep ∉ before := by
  induction text generalizing before with
  | nil => simp [cutFirst] at cut
  | cons c rest ih =>
    by_cases here : c = sep
    · obtain ⟨rfl, rfl⟩ : [] = before ∧ rest = after := by simpa [cutFirst, here] using cut
      simp [here]
    · simp only [cutFirst, here, if_false, Option.map_eq_some_iff, Prod.exists,
        Prod.mk.injEq] at cut
      obtain ⟨front, back, found, rfl, rfl⟩ := cut
      obtain ⟨rfl, free⟩ := ih found
      simp [free, Ne.symm here]

theorem cutLast_eq_none_iff {sep : Char} {text : List Char} :
    cutLast sep text = none ↔ sep ∉ text := by
  induction text with
  | nil => simp [cutLast]
  | cons c rest ih =>
    cases tail : cutLast sep rest with
    | some cut =>
      have present : sep ∈ rest := Classical.not_not.1 fun free => by simp [ih.2 free] at tail
      simp [cutLast, tail, present]
    | none =>
      have free := ih.1 tail
      by_cases here : c = sep
      · simp [cutLast, tail, here]
      · simp [cutLast, tail, here, free, Ne.symm here]

theorem cutLast_append {sep : Char} {after : List Char} (free : sep ∉ after)
    (before : List Char) : cutLast sep (before ++ sep :: after) = some (before, after) := by
  induction before with
  | nil => simp [cutLast, cutLast_eq_none_iff.2 free]
  | cons b before ih => simp [cutLast, ih]

theorem eq_append_of_cutLast {sep : Char} {text before after : List Char}
    (cut : cutLast sep text = some (before, after)) :
    text = before ++ sep :: after ∧ sep ∉ after := by
  induction text generalizing before with
  | nil => simp [cutLast] at cut
  | cons c rest ih =>
    cases tail : cutLast sep rest with
    | some found =>
      obtain ⟨front, back⟩ := found
      obtain ⟨rfl, rfl⟩ : c :: front = before ∧ back = after := by simpa [cutLast, tail] using cut
      obtain ⟨rfl, free⟩ := ih tail
      exact ⟨rfl, free⟩
    | none =>
      obtain ⟨here, rfl, rfl⟩ : c = sep ∧ [] = before ∧ rest = after := by
        simpa [cutLast, tail] using cut
      exact ⟨by simp [here], cutLast_eq_none_iff.1 tail⟩

theorem cutLast_eq_some_iff {sep : Char} {text before after : List Char} :
    cutLast sep text = some (before, after) ↔ text = before ++ sep :: after ∧ sep ∉ after :=
  ⟨eq_append_of_cutLast, fun ⟨same, free⟩ => same ▸ cutLast_append free before⟩

theorem parts_ne_nil (sep : Char) (text : List Char) : parts sep text ≠ [] := by
  cases text with
  | nil => simp [parts]
  | cons c rest =>
    by_cases here : c = sep
    · simp [parts, here]
    · cases tail : parts sep rest <;> simp [parts, here, tail]

theorem parts_of_free {sep : Char} {text : List Char} (free : sep ∉ text) :
    parts sep text = [text] := by
  induction text with
  | nil => rfl
  | cons c rest ih =>
    obtain ⟨other, free⟩ : ¬sep = c ∧ sep ∉ rest := by simpa using free
    simp [parts, Ne.symm other, ih free]

theorem parts_append {sep : Char} {part : List Char} (free : sep ∉ part) (rest : List Char) :
    parts sep (part ++ sep :: rest) = part :: parts sep rest := by
  induction part with
  | nil => simp [parts]
  | cons c part ih =>
    obtain ⟨other, free⟩ : ¬sep = c ∧ sep ∉ part := by simpa using free
    simp [parts, Ne.symm other, ih free]

theorem intercalate_cons_cons (sep : Char) (first second : List Char)
    (others : List (List Char)) :
    List.intercalate [sep] (first :: second :: others) =
      first ++ sep :: List.intercalate [sep] (second :: others) := by
  simp [List.intercalate, List.intersperse]

/-- The parts of a joined text are what was joined, if the separator occurs in none of them. -/
theorem parts_intercalate {sep : Char} {first : List Char} {others : List (List Char)}
    (free : ∀ part ∈ first :: others, sep ∉ part) :
    parts sep (List.intercalate [sep] (first :: others)) = first :: others := by
  induction others generalizing first with
  | nil => simpa [List.intercalate, List.intersperse] using parts_of_free (free first (by simp))
  | cons second others ih =>
    rw [intercalate_cons_cons, parts_append (free first (by simp)),
      ih fun part present => free part (List.mem_cons_of_mem _ present)]

end RpcTelemetry.Text
