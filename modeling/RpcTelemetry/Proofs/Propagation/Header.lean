import RpcTelemetry.Propagation.TraceContext

/-!
# Trace context through metadata

Results:
1. `parse?_render`: the header of trace, span and flags is read back, with the sampled flag only.
2. `parse_header`: the header of a trace state is read back as it was, whatever its members.
3. `read?_inject`: a valid identity that was laid over metadata is read from them as a remote one.
   Metadata take printable characters only, so the trace state comes along if its header has no
   others (`TraceState.IsPrintable`); what stood under the two keys before does not matter then.
-/

namespace RpcTelemetry

open Text

/-- A trace state whose header metadata accept. -/
def TraceState.IsPrintable (state : TraceState) : Prop :=
  state.header.all Metadata.isValueChar = true

namespace HeaderLemmas

/-! ## Hexadecimal digits -/

theorem exists_hexDigit_of_mem {c : Char} {width value : Nat}
    (present : c ∈ hexPadded width value) : ∃ digit < 16, c = hexDigit digit := by
  induction width generalizing value with
  | zero => cases present
  | succ width ih =>
    rcases List.mem_append.1 present with before | last
    · exact ih before
    · exact ⟨value % 16, Nat.mod_lt _ (by decide), List.mem_singleton.1 last⟩

theorem hexDigit_class : ∀ digit < 16, hexDigit digit ≠ '-' ∧ hexDigit digit ≠ ' ' ∧
    (hexDigit digit).isUpper = false ∧ Metadata.isValueChar (hexDigit digit) = true := by
  decide

/-- A padded digit is no separator, no blank and no capital letter, but printable. -/
theorem class_of_mem_hexPadded {c : Char} {width value : Nat}
    (present : c ∈ hexPadded width value) :
    c ≠ '-' ∧ c ≠ ' ' ∧ c.isUpper = false ∧ Metadata.isValueChar c = true := by
  obtain ⟨digit, small, rfl⟩ := exists_hexDigit_of_mem present
  exact hexDigit_class digit small

theorem hexPadded_ne_nil {width : Nat} (some_width : 0 < width) (value : Nat) :
    hexPadded width value ≠ [] := by
  intro none
  have length := length_hexPadded width value
  rw [none, List.length_nil] at length
  omega

/-! ## Blanks and last parts -/

theorem dropWhile_of_free {mark : Char} {text : List Char} (free : mark ∉ text) :
    text.dropWhile (· = mark) = text := by
  cases text with
  | nil => rfl
  | cons c rest =>
    have other : c ≠ mark := fun same => free (by simp [same])
    rw [List.dropWhile_cons_of_neg (by simpa using other)]

theorem trimSpaces_of_free {text : List Char} (free : ' ' ∉ text) : trimSpaces text = text := by
  have alsoBack : ' ' ∉ text.reverse := fun present => free (List.mem_reverse.1 present)
  rw [trimSpaces, dropWhile_of_free free, dropWhile_of_free alsoBack, List.reverse_reverse]

/-- Where the last part is not empty, the parts are those of the whole text. -/
theorem terminatedParts_intercalate {sep : Char} {first : List Char} {others : List (List Char)}
    (free : ∀ part ∈ first :: others, sep ∉ part)
    (closed : ∀ part ∈ first :: others, part ≠ []) :
    terminatedParts sep (List.intercalate [sep] (first :: others)) = first :: others := by
  unfold terminatedParts
  rw [parts_intercalate free]
  refine if_neg fun last => ?_
  exact closed [] (List.mem_of_getLast? last) rfl

end HeaderLemmas

open HeaderLemmas

namespace TraceContext

/-! ## The header of trace, span and flags -/

namespace Parent

theorem render_eq_intercalate (parent : Parent) :
    parent.render = List.intercalate ['-'] [['0', '0'], hexPadded 32 parent.trace.toNat,
      hexPadded 16 parent.span.toNat, hexPadded 2 (parent.flags &&& 1).toNat] := by
  simp [render, List.intercalate]

theorem class_of_mem_render {parent : Parent} {c : Char} (present : c ∈ parent.render) :
    c ≠ ' ' ∧ Metadata.isValueChar c = true := by
  have hyphen : '-' ≠ ' ' ∧ Metadata.isValueChar '-' = true := by decide
  have zero : '0' ≠ ' ' ∧ Metadata.isValueChar '0' = true := by decide
  have digit {width value : Nat} (inside : c ∈ hexPadded width value) :
      c ≠ ' ' ∧ Metadata.isValueChar c = true :=
    ⟨(class_of_mem_hexPadded inside).2.1, (class_of_mem_hexPadded inside).2.2.2⟩
  simp only [render, List.mem_append, List.mem_cons, List.not_mem_nil, or_false] at present
  rcases present with ((((((rfl | rfl | rfl) | trace) | rfl) | span) | rfl) | flags)
  · exact zero
  · exact zero
  · exact hyphen
  · exact digit trace
  · exact hyphen
  · exact digit span
  · exact hyphen
  · exact digit flags

theorem lowercase?_hexPadded {bits width : Nat} (some_width : 0 < width)
    (enough : bits ≤ 4 * width) (word : BitVec bits) :
    lowercase? bits (hexPadded width word.toNat) = some word := by
  have lower : (hexPadded width word.toNat).any Char.isUpper = false :=
    List.any_eq_false.2 fun c present => by simp [(class_of_mem_hexPadded present).2.2.1]
  rw [lowercase?, lower, word?_hexPadded some_width enough]
  rfl

theorem parts_render (parent : Parent) :
    terminatedParts '-' (trimSpaces parent.render) = [['0', '0'], hexPadded 32 parent.trace.toNat,
      hexPadded 16 parent.span.toNat, hexPadded 2 (parent.flags &&& 1).toNat] := by
  have unblanked : ' ' ∉ parent.render := fun present => (class_of_mem_render present).1 rfl
  have digitsFree (width value : Nat) : '-' ∉ hexPadded width value :=
    fun present => (class_of_mem_hexPadded present).1 rfl
  rw [trimSpaces_of_free unblanked, render_eq_intercalate, terminatedParts_intercalate]
  · simp only [List.forall_mem_cons, List.not_mem_nil, false_implies, implies_true, and_true]
    exact ⟨by decide, digitsFree _ _, digitsFree _ _, digitsFree _ _⟩
  · simp only [List.forall_mem_cons, List.not_mem_nil, false_implies, implies_true, and_true]
    exact ⟨by decide, hexPadded_ne_nil (by decide) _, hexPadded_ne_nil (by decide) _,
      hexPadded_ne_nil (by decide) _⟩

/-- A rendered header is read back, as far as it has the flags. -/
theorem parse?_render (parent : Parent) :
    parse? parent.render = some { parent with flags := parent.flags &&& 1 } := by
  have version : word? 16 8 ['0', '0'] = some 0 := by decide
  have small : parent.flags.toNat % 2 ≤ 2 := by omega
  unfold parse?
  rw [parts_render]
  simp only [version, lowercase?_hexPadded (show 0 < 32 by decide) (show 128 ≤ 4 * 32 by decide),
    lowercase?_hexPadded (show 0 < 16 by decide) (show 64 ≤ 4 * 16 by decide),
    word?_hexPadded (show 0 < 2 by decide) (show 8 ≤ 4 * 2 by decide), Option.bind_eq_bind,
    Option.bind_some]
  simp [small]

end Parent

end TraceContext

/-! ## The header of the trace state -/

namespace TraceState

/-- The text of a member in the header. -/
def memberText (entry : List Char × List Char) : List Char := entry.1 ++ ['='] ++ entry.2

theorem not_mem_of_isKey {key : List Char} (valid : isKey key = true) : ',' ∉ key ∧ '=' ∉ key := by
  have chars : ∀ c ∈ key, isKeyChar c = true := by
    simp only [isKey, Bool.and_eq_true, List.all_eq_true] at valid
    exact valid.1.1.2
  have comma : isKeyChar ',' = false := by decide
  have equals : isKeyChar '=' = false := by decide
  exact ⟨fun present => by simp [chars _ present] at comma,
    fun present => by simp [chars _ present] at equals⟩

theorem not_mem_of_isValue {value : List Char} (valid : isValue value = true) :
    ',' ∉ value ∧ '=' ∉ value := by
  simp only [isValue, Bool.and_eq_true, Bool.not_eq_true', List.contains_eq_mem,
    decide_eq_false_iff_not] at valid
  exact ⟨valid.1.2, valid.2⟩

theorem member_memberText {entry : List Char × List Char} (validKey : isKey entry.1 = true)
    (validValue : isValue entry.2 = true) : member (memberText entry) = .ok entry := by
  have cut : cutFirst '=' (memberText entry) = some (entry.1, entry.2) := by
    rw [memberText, List.append_assoc]
    exact cutFirst_append (not_mem_of_isKey validKey).2 entry.2
  have kept : entry.2.dropWhile (· = '=') = entry.2 := by
    refine dropWhile_of_free (not_mem_of_isValue validValue).2
  simp only [member, cut, kept]

theorem mapM_member {entries : List (List Char × List Char)}
    (valid : ∀ entry ∈ entries, isKey entry.1 = true ∧ isValue entry.2 = true) :
    (entries.map memberText).mapM member = .ok entries := by
  induction entries with
  | nil => rfl
  | cons entry rest ih =>
    obtain ⟨validKey, validValue⟩ := valid entry (by simp)
    rw [List.map_cons, List.mapM_cons, member_memberText validKey validValue,
      ih fun other present => valid other (List.mem_cons_of_mem _ present)]
    rfl

theorem ofMembers_members {entries : List (List Char × List Char)}
    (valid : ∀ entry ∈ entries, isKey entry.1 = true ∧ isValue entry.2 = true) :
    ofMembers entries = .ok ⟨entries, valid⟩ := by
  induction entries with
  | nil => rfl
  | cons entry rest ih =>
    obtain ⟨validKey, validValue⟩ := valid entry (by simp)
    rw [ofMembers, dif_pos validKey, dif_pos validValue,
      ih fun other present => valid other (List.mem_cons_of_mem _ present)]
    rfl

theorem memberText_class {entry : List Char × List Char} (validKey : isKey entry.1 = true)
    (validValue : isValue entry.2 = true) : ',' ∉ memberText entry ∧ memberText entry ≠ [] := by
  refine ⟨fun present => ?_, fun none => ?_⟩
  · rw [memberText, List.append_assoc, List.mem_append, List.mem_append] at present
    rcases present with key | equals | value
    · exact (not_mem_of_isKey validKey).1 key
    · exact absurd (List.mem_singleton.1 equals) (by decide)
    · exact (not_mem_of_isValue validValue).1 value
  · simp [memberText] at none

theorem parts_header (state : TraceState) :
    terminatedParts ',' state.header = state.members.map memberText := by
  have texts : state.header = List.intercalate [','] (state.members.map memberText) := rfl
  rw [texts]
  cases members : state.members with
  | nil => rfl
  | cons first rest =>
    have classes : ∀ text ∈ (first :: rest).map memberText, ',' ∉ text ∧ text ≠ [] := by
      refine List.forall_mem_map.2 fun entry present => ?_
      obtain ⟨validKey, validValue⟩ := state.valid entry (members ▸ present)
      exact memberText_class validKey validValue
    exact terminatedParts_intercalate (fun text present => (classes text present).1)
      fun text present => (classes text present).2

/-- The header of a trace state is read back as it was. -/
theorem parse_header (state : TraceState) : parse state.header = .ok state := by
  have read : parse state.header = ofMembers state.members := by
    rw [parse, parts_header, mapM_member state.valid]
    rfl
  rw [read, ofMembers_members state.valid]

end TraceState

/-! ## Metadata -/

namespace Metadata

/-- What can be written is found under its key; everything else stays. -/
theorem insert_of_valid (metadata : Metadata) {key value : String} (validKey : isKey key = true)
    (validValue : isValue value = true) :
    ∃ written, metadata.insert key value = .ok written ∧
      ∀ other, written.get? other = if other = key then some value else metadata.get? other := by
  unfold insert
  rw [dif_pos validKey, dif_pos validValue]
  exact ⟨_, rfl, fun other => Keyed.get?_insert metadata.fields key other value⟩

/-- A write leaves the other keys as they are, whether it is refused or not. -/
theorem get?_insertAll_singleton_of_ne (metadata : Metadata) {key other value : String}
    (different : other ≠ key) :
    (metadata.insertAll [(key, value)]).1.get? other = metadata.get? other := by
  unfold insertAll insert
  by_cases validKey : isKey key
  · by_cases validValue : isValue value
    · rw [dif_pos validKey, dif_pos validValue]
      exact (Keyed.get?_insert metadata.fields key other value).trans (if_neg different)
    · rw [dif_pos validKey, dif_neg validValue]
      rfl
  · rw [dif_neg validKey]
    rfl

end Metadata

namespace TraceContext

theorem isValue_ofList {text : List Char} (printable : text.all Metadata.isValueChar = true) :
    Metadata.isValue (String.ofList text) = true := by
  rw [Metadata.isValue, String.toList_ofList]
  exact printable

theorem inject_fields {identity : SpanContext} (valid : identity.isValid = true)
    (metadata : Metadata) :
    metadata.inject (fields identity) = metadata.insertAll
      [(parentKey, String.ofList (Parent.render ⟨identity.trace, identity.span, identity.flags⟩)),
        (stateKey, String.ofList identity.state.header)] := by
  have lowerParent : parentKey.toLower = parentKey := by
    rw [← String.toList_inj]
    exact String.toList_map.trans (by decide)
  have lowerState : stateKey.toLower = stateKey := by
    rw [← String.toList_inj]
    exact String.toList_map.trans (by decide)
  simp only [Metadata.inject, fields, if_pos valid, List.map_cons, List.map_nil, lowerParent,
    lowerState]

/-- After a valid identity was laid over metadata, they have its headers, whatever they had
before. -/
theorem get?_inject {identity : SpanContext} (valid : identity.isValid = true)
    (metadata : Metadata) :
    let written := (metadata.inject (fields identity)).1
    written.get? parentKey =
        some (String.ofList (Parent.render ⟨identity.trace, identity.span, identity.flags⟩)) ∧
      (identity.state.IsPrintable →
        written.get? stateKey = some (String.ofList identity.state.header)) := by
  have parentValue : Metadata.isValue
      (String.ofList (Parent.render ⟨identity.trace, identity.span, identity.flags⟩)) = true :=
    isValue_ofList (List.all_eq_true.2 fun c present => (Parent.class_of_mem_render present).2)
  have parentValid : Metadata.isKey parentKey = true := by decide
  have stateValid : Metadata.isKey stateKey = true := by decide
  have different : parentKey ≠ stateKey := by decide
  obtain ⟨first, written, found⟩ := metadata.insert_of_valid parentValid parentValue
  rw [inject_fields valid, Metadata.insertAll, written]
  -- The second header may be refused; the first one stands then all the same.
  constructor
  · show (first.insertAll _).1.get? parentKey = _
    rw [first.get?_insertAll_singleton_of_ne different, found, if_pos rfl]
  · intro printable
    obtain ⟨second, written, found⟩ := first.insert_of_valid stateValid (isValue_ofList printable)
    show (first.insertAll _).1.get? stateKey = _
    rw [Metadata.insertAll, written]
    show second.get? stateKey = _
    rw [found, if_pos rfl]

/-- A valid identity that was laid over metadata is read from them as a remote one. -/
theorem read?_inject {identity : SpanContext} (valid : identity.isValid = true)
    (metadata : Metadata) :
    ∃ read, read? (metadata.inject (fields identity)).1 = some read ∧
      read.trace = identity.trace ∧ read.span = identity.span ∧
      read.flags = identity.flags &&& 1 ∧ read.remote = true ∧
      (identity.state.IsPrintable → read.state = identity.state) := by
  obtain ⟨parentHeader, stateHeader⟩ := get?_inject valid metadata
  have stillValid (state : TraceState) : SpanContext.isValid
      ⟨identity.trace, identity.span, identity.flags &&& 1 &&& 1, true, state⟩ = true := valid
  unfold read?
  rw [parentHeader, Option.getD_some, String.toList_ofList, Parent.parse?_render,
    Option.bind_eq_bind, Option.bind_some]
  dsimp only
  rw [if_pos (stillValid _)]
  refine ⟨_, rfl, rfl, rfl, ?_, rfl, fun printable => ?_⟩
  · show identity.flags &&& 1 &&& 1 = identity.flags &&& 1
    rw [BitVec.and_assoc, BitVec.and_self]
  · rw [stateHeader printable]
    show (TraceState.parse (String.ofList identity.state.header).toList).toOption.getD .empty = _
    rw [String.toList_ofList, TraceState.parse_header]
    rfl

theorem extract_of_read? {metadata : Metadata} {identity : SpanContext}
    (found : read? metadata = some identity) (current base : Context) :
    propagator.extract current base metadata = .remote identity := by
  simp only [propagator, found]

end TraceContext

end RpcTelemetry
