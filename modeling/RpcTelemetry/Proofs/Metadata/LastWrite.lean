import Mathlib.Data.List.Induction
import RpcTelemetry.Metadata

/-!
# The last write to metadata

Metadata are edited by writes and removals, and a write of an invalid key or value is refused. Keys
and values are valid by their bytes, and keys stand in the order of their bytes.

Results:
1. `Text.forall_bytes_iff`: a class of ASCII bytes holds all bytes of a text exactly if it holds all
   its characters; hence `Metadata.isKey_iff` and `Metadata.isValue_iff`.
2. `Metadata.keys_increasing`: the keys are listed in strictly increasing order of their bytes.
3. `Metadata.get?_edit`, `Metadata.get?_editAll`: what a key has after one edit and after many.
4. `Metadata.last_write_wins`: what metadata come to after any edits, and what each edit is
   answered.
-/

namespace RpcTelemetry

namespace Text

/-- The bytes of a text in UTF-8. -/
def bytes (text : String) : List UInt8 := text.toByteArray.data.toList

theorem bytes_eq (text : String) : bytes text = text.toList.flatMap String.utf8EncodeChar := by
  rw [bytes, ← String.utf8Encode_toList, List.utf8Encode, List.toList_data_toByteArray]

theorem utf8EncodeChar_of_lt {c : Char} (ascii : c.toNat < 128) :
    String.utf8EncodeChar c = [UInt8.ofNat c.toNat] := by
  have low : c.val.toNat ≤ 0x7f := Nat.le_of_lt_succ ascii
  rw [String.utf8EncodeChar, if_pos low]
  rfl

theorem le_toNat_ofNat {value width mark : Nat} (some_width : 0 < width) (marked : 128 ≤ mark)
    (fits : width + mark ≤ 256) : 128 ≤ (UInt8.ofNat (value % width + mark)).toNat := by
  have below : value % width < width := Nat.mod_lt value some_width
  rw [UInt8.toNat_ofNat', Nat.mod_eq_of_lt (by omega)]
  omega

/-- The bytes of a character that is not ASCII are not ASCII either: each has a mark of at least
128. -/
theorem le_of_mem_utf8EncodeChar {c : Char} (wide : 128 ≤ c.toNat) {byte : UInt8}
    (present : byte ∈ String.utf8EncodeChar c) : 128 ≤ byte.toNat := by
  have high : ¬c.val.toNat ≤ 0x7f := Nat.not_le.2 wide
  simp only [String.utf8EncodeChar, if_neg high] at present
  split at present
  · simp only [List.mem_cons, List.not_mem_nil, or_false] at present
    rcases present with rfl | rfl <;> exact le_toNat_ofNat (by decide) (by decide) (by decide)
  · split at present
    · simp only [List.mem_cons, List.not_mem_nil, or_false] at present
      rcases present with rfl | rfl | rfl <;>
        exact le_toNat_ofNat (by decide) (by decide) (by decide)
    · simp only [List.mem_cons, List.not_mem_nil, or_false] at present
      rcases present with rfl | rfl | rfl | rfl <;>
        exact le_toNat_ofNat (by decide) (by decide) (by decide)

/-- A class of ASCII bytes holds all bytes of a text exactly if it holds all its characters. -/
theorem forall_bytes_iff {p : UInt8 → Prop} (ascii : ∀ byte, p byte → byte.toNat < 128)
    (text : String) :
    (∀ byte ∈ bytes text, p byte) ↔
      ∀ c ∈ text.toList, c.toNat < 128 ∧ p (UInt8.ofNat c.toNat) := by
  have character (c : Char) : (∀ byte ∈ String.utf8EncodeChar c, p byte) ↔
      c.toNat < 128 ∧ p (UInt8.ofNat c.toNat) := by
    rcases Nat.lt_or_ge c.toNat 128 with low | wide
    · rw [utf8EncodeChar_of_lt low, List.forall_mem_singleton]
      exact (and_iff_right low).symm
    · refine iff_of_false (fun all => ?_) fun both => Nat.not_lt.2 wide both.1
      obtain ⟨byte, present⟩ := List.exists_mem_of_ne_nil _ (String.utf8EncodeChar_ne_nil (c := c))
      exact Nat.not_lt.2 (le_of_mem_utf8EncodeChar wide present) (ascii byte (all byte present))
  rw [bytes_eq]
  simp only [List.mem_flatMap, forall_exists_index, and_imp, ← character]
  exact ⟨fun all c inside byte present => all byte c inside present,
    fun all byte c inside present => all c inside byte present⟩

/-- A class of ASCII characters is tested as well on bytes. -/
theorem all_iff_forall_bytes {test : Char → Bool} {p : UInt8 → Prop}
    (agree : ∀ code < 128, test (Char.ofNat code) = true ↔ p (UInt8.ofNat code))
    (asciiChars : ∀ c, test c = true → c.toNat < 128)
    (asciiBytes : ∀ byte, p byte → byte.toNat < 128) (text : String) :
    text.toList.all test = true ↔ ∀ byte ∈ bytes text, p byte := by
  rw [forall_bytes_iff asciiBytes, List.all_eq_true]
  refine forall₂_congr fun c _ => ?_
  constructor
  · intro passed
    have low := asciiChars c passed
    refine ⟨low, (agree c.toNat low).1 ?_⟩
    rwa [Char.ofNat_toNat]
  · rintro ⟨low, inClass⟩
    rw [← Char.ofNat_toNat c]
    exact (agree c.toNat low).2 inClass

end Text

namespace Metadata

/-! ## Validity by bytes -/

/-- The bytes of keys: those of small letters, digits, the hyphen, the underscore and the dot. -/
def IsKeyByte (byte : UInt8) : Prop :=
  0x61 ≤ byte ∧ byte ≤ 0x7a ∨ 0x30 ≤ byte ∧ byte ≤ 0x39 ∨ byte = 0x2d ∨ byte = 0x5f ∨ byte = 0x2e

/-- A text is a key if it is not empty and all its bytes are those of keys. -/
def IsValidKey (key : String) : Prop := key ≠ "" ∧ ∀ byte ∈ Text.bytes key, IsKeyByte byte

/-- A text is a value if all its bytes are printable. -/
def IsValidValue (value : String) : Prop :=
  ∀ byte ∈ Text.bytes value, 0x20 ≤ byte ∧ byte ≤ 0x7e

instance (byte : UInt8) : Decidable (IsKeyByte byte) := inferInstanceAs (Decidable (_ ∨ _))

theorem isKeyChar_ascii : ∀ code < 128,
    isKeyChar (Char.ofNat code) = true ↔ IsKeyByte (UInt8.ofNat code) := by
  decide +kernel

theorem isValueChar_ascii : ∀ code < 128,
    isValueChar (Char.ofNat code) = true ↔
      0x20 ≤ UInt8.ofNat code ∧ UInt8.ofNat code ≤ 0x7e := by
  decide +kernel

theorem lt_of_isKeyChar (c : Char) (ofKey : isKeyChar c = true) : c.toNat < 128 := by
  simp only [isKeyChar, Bool.or_eq_true, Bool.and_eq_true, decide_eq_true_eq, beq_iff_eq] at ofKey
  rcases ofKey with (((⟨-, letter⟩ | ⟨-, digit⟩) | rfl) | rfl) | rfl
  · exact Nat.lt_of_le_of_lt letter (by decide)
  · exact Nat.lt_of_le_of_lt digit (by decide)
  all_goals decide

theorem lt_of_isValueChar (c : Char) (ofValue : isValueChar c = true) : c.toNat < 128 := by
  simp only [isValueChar, Bool.and_eq_true, decide_eq_true_eq] at ofValue
  exact Nat.lt_of_le_of_lt ofValue.2 (by decide)

theorem lt_of_isKeyByte (byte : UInt8) (ofKey : IsKeyByte byte) : byte.toNat < 128 := by
  rcases ofKey with ⟨-, letter⟩ | ⟨-, digit⟩ | rfl | rfl | rfl
  · exact Nat.lt_of_le_of_lt (UInt8.le_iff_toNat_le.1 letter) (by decide)
  · exact Nat.lt_of_le_of_lt (UInt8.le_iff_toNat_le.1 digit) (by decide)
  all_goals decide

theorem isKey_iff (key : String) : isKey key = true ↔ IsValidKey key := by
  have filled : key.toList ≠ [] ↔ key ≠ "" := not_congr String.toList_eq_nil_iff
  rw [isKey, Bool.and_eq_true, decide_eq_true_iff, filled,
    Text.all_iff_forall_bytes isKeyChar_ascii lt_of_isKeyChar lt_of_isKeyByte]
  rfl

theorem isValue_iff (value : String) : isValue value = true ↔ IsValidValue value :=
  Text.all_iff_forall_bytes isValueChar_ascii lt_of_isValueChar
    (fun _ printable => Nat.lt_of_le_of_lt (UInt8.le_iff_toNat_le.1 printable.2) (by decide)) value

/-! ## Keys in order -/

/-- The bytes of a key are the codes of its characters. -/
theorem bytes_of_isKey {key : String} (valid : isKey key = true) :
    Text.bytes key = key.toList.map fun c => UInt8.ofNat c.toNat := by
  have single : ∀ c ∈ key.toList, String.utf8EncodeChar c = [UInt8.ofNat c.toNat] := by
    intro c inside
    simp only [isKey, Bool.and_eq_true, List.all_eq_true] at valid
    exact Text.utf8EncodeChar_of_lt (lt_of_isKeyChar c (valid.2 c inside))
  rw [Text.bytes_eq, List.flatMap_def, List.map_congr_left single, ← List.flatMap_def,
    ← List.map_eq_flatMap]

theorem ofNat_lt_ofNat {c d : Char} (ascii : d.toNat < 128) (below : c < d) :
    UInt8.ofNat c.toNat < UInt8.ofNat d.toNat := by
  have less : c.toNat < d.toNat := below
  rw [UInt8.lt_iff_toNat_lt, UInt8.toNat_ofNat', UInt8.toNat_ofNat',
    Nat.mod_eq_of_lt (by omega), Nat.mod_eq_of_lt (by omega)]
  exact less

theorem map_lt_map {left right : List Char} (ascii : ∀ c ∈ right, c.toNat < 128)
    (below : left < right) :
    left.map (fun c => UInt8.ofNat c.toNat) < right.map (fun c => UInt8.ofNat c.toNat) := by
  induction below with
  | nil => exact .nil
  | cons _ ih => exact .cons (ih fun c inside => ascii c (List.mem_cons_of_mem _ inside))
  | rel less => exact .rel (ofNat_lt_ofNat (ascii _ List.mem_cons_self) less)

/-- Keys are ordered by their bytes as they are by their characters. -/
theorem bytes_lt_bytes {key other : String} (valid : isKey key = true)
    (valid' : isKey other = true) (below : key < other) : Text.bytes key < Text.bytes other := by
  rw [bytes_of_isKey valid, bytes_of_isKey valid']
  simp only [isKey, Bool.and_eq_true, List.all_eq_true] at valid'
  exact map_lt_map (fun c inside => lt_of_isKeyChar c (valid'.2 c inside)) below

theorem keys_increasing (metadata : Metadata) :
    metadata.keys.Pairwise fun key other => Text.bytes key < Text.bytes other := by
  refine List.pairwise_map.2 (List.Pairwise.imp_of_mem ?_ metadata.fields.increasing)
  intro field other present present' below
  exact bytes_lt_bytes (metadata.valid field present).1 (metadata.valid other present').1 below

/-! ## Edits -/

/-- A write of a value under a key, or the removal of a key. -/
inductive Edit where
  | insert (key value : String)
  | remove (key : String)

/-- The metadata after an edit, and what it is answered: what the key had, or why the write was
refused. -/
def edit (metadata : Metadata) : Edit → Metadata × Except WriteError (Option String)
  | .insert key value => metadata.exchange key value
  | .remove key =>
    let (rest, old) := metadata.extract key
    (rest, .ok old)

/-- The metadata after edits, one after another. -/
def editAll (metadata : Metadata) (edits : List Edit) : Metadata :=
  edits.foldl (fun metadata edit => (metadata.edit edit).1) metadata

/-- Whether an edit settles what a key has: it is an accepted write of the key or its removal. -/
def Edit.Settles (key : String) : Edit → Prop
  | .insert other value => other = key ∧ IsValidKey other ∧ IsValidValue value
  | .remove other => other = key

variable (metadata : Metadata)

/-- An accepted write gives back what the key had. -/
theorem edit_insert_of_valid {key value : String} (validKey : IsValidKey key)
    (validValue : IsValidValue value) :
    (metadata.edit (.insert key value)).2 = .ok (metadata.get? key) ∧
      (metadata.edit (.insert key value)).1.fields = metadata.fields.insert key value := by
  rw [← isKey_iff] at validKey
  rw [← isValue_iff] at validValue
  rw [edit, exchange_eq, insert, dif_pos validKey, dif_pos validValue]
  exact ⟨rfl, rfl⟩

theorem edit_insert_of_invalidKey {key : String} (invalid : ¬IsValidKey key) (value : String) :
    metadata.edit (.insert key value) = (metadata, .error (.invalidKey key)) := by
  rw [← isKey_iff] at invalid
  rw [edit, exchange_eq, insert, dif_neg invalid]

theorem edit_insert_of_invalidValue {key value : String} (validKey : IsValidKey key)
    (invalid : ¬IsValidValue value) :
    metadata.edit (.insert key value) = (metadata, .error (.invalidValue key)) := by
  rw [← isKey_iff] at validKey
  rw [← isValue_iff] at invalid
  rw [edit, exchange_eq, insert, dif_pos validKey, dif_neg invalid]

/-- A removal gives back what the key had. -/
theorem edit_remove (key : String) :
    (metadata.edit (.remove key)).2 = .ok (metadata.get? key) ∧
      (metadata.edit (.remove key)).1.fields = metadata.fields.erase key := by
  rw [edit, extract_eq]
  exact ⟨rfl, rfl⟩

/-! ## What a key has -/

theorem get?_edit_insert {key value : String} (validKey : IsValidKey key)
    (validValue : IsValidValue value) (other : String) :
    (metadata.edit (.insert key value)).1.get? other =
      if other = key then some value else metadata.get? other := by
  rw [get?, (metadata.edit_insert_of_valid validKey validValue).2, Keyed.get?_insert]
  rfl

theorem get?_edit_remove (key other : String) :
    (metadata.edit (.remove key)).1.get? other =
      if other = key then none else metadata.get? other := by
  rw [get?, (metadata.edit_remove key).2, Keyed.get?_erase]
  rfl

/-- An edit that does not settle a key leaves what it has. -/
theorem get?_edit_of_not_settles {key : String} {edit : Edit} (other : ¬edit.Settles key) :
    (metadata.edit edit).1.get? key = metadata.get? key := by
  cases edit with
  | insert written value =>
    by_cases validKey : IsValidKey written
    · by_cases validValue : IsValidValue value
      · rw [metadata.get?_edit_insert validKey validValue, if_neg]
        rintro rfl
        exact other ⟨rfl, validKey, validValue⟩
      · rw [metadata.edit_insert_of_invalidValue validKey validValue]
    · rw [metadata.edit_insert_of_invalidKey validKey]
  | remove removed =>
    rw [get?_edit_remove, if_neg]
    rintro rfl
    exact other rfl

theorem editAll_concat (edits : List Edit) (last : Edit) :
    metadata.editAll (edits ++ [last]) = ((metadata.editAll edits).edit last).1 :=
  List.foldl_append

/-- The last accepted write of a key, unless a removal of the key follows. -/
def IsLastWrite (edits : List Edit) (key value : String) : Prop :=
  ∃ before after, edits = before ++ .insert key value :: after ∧
    IsValidKey key ∧ IsValidValue value ∧ ∀ edit ∈ after, ¬edit.Settles key

/-- An edit after a last write is either that write or does not settle its key. -/
theorem isLastWrite_concat {edits : List Edit} {last : Edit} {key value : String} :
    IsLastWrite (edits ++ [last]) key value ↔
      last = .insert key value ∧ IsValidKey key ∧ IsValidValue value ∨
        IsLastWrite edits key value ∧ ¬last.Settles key := by
  constructor
  · rintro ⟨before, after, split, validKey, validValue, unsettled⟩
    rcases List.eq_nil_or_concat after with rfl | ⟨front, back, rfl⟩
    · obtain ⟨-, same⟩ := List.append_inj' split rfl
      exact .inl ⟨(List.cons.inj same).1, validKey, validValue⟩
    · rw [List.concat_eq_append, ← List.cons_append, ← List.append_assoc] at split
      obtain ⟨rfl, same⟩ := List.append_inj' split rfl
      obtain rfl := (List.cons.inj same).1
      exact .inr ⟨⟨before, front, rfl, validKey, validValue,
        fun edit present => unsettled edit (by simp [present])⟩, unsettled last (by simp)⟩
  · rintro (⟨rfl, validKey, validValue⟩ |
      ⟨⟨before, after, rfl, validKey, validValue, unsettled⟩, last'⟩)
    · exact ⟨edits, [], rfl, validKey, validValue, List.forall_mem_nil _⟩
    · refine ⟨before, after ++ [last], by simp, validKey, validValue, ?_⟩
      rw [List.forall_mem_append, List.forall_mem_singleton]
      exact ⟨unsettled, last'⟩

/-- A key has the value of its last write. -/
theorem get?_editAll (edits : List Edit) (key value : String) :
    (empty.editAll edits).get? key = some value ↔ IsLastWrite edits key value := by
  induction edits using List.reverseRecOn with
  | nil => exact iff_of_false (fun none => by cases none) fun ⟨_, _, split, _⟩ => by simp at split
  | append_singleton edits last ih =>
    rw [editAll_concat, isLastWrite_concat, ← ih]
    by_cases settles : last.Settles key
    · simp only [settles, not_true_eq_false, and_false, or_false]
      cases last with
      | insert written value' =>
        obtain ⟨rfl, validKey, validValue⟩ := settles
        rw [get?_edit_insert _ validKey validValue, if_pos rfl]
        grind
      | remove removed =>
        obtain rfl := settles
        rw [get?_edit_remove, if_pos rfl]
        simp
    · rw [get?_edit_of_not_settles _ settles]
      simp only [settles, not_false_eq_true, and_true]
      refine (or_iff_right ?_).symm
      rintro ⟨rfl, validKey, validValue⟩
      exact settles ⟨rfl, validKey, validValue⟩

variable {metadata} in
/-- Metadata are determined by what their keys have. -/
theorem eq_of_get? {other : Metadata} (same : ∀ key, metadata.get? key = other.get? key) :
    metadata = other := by
  obtain ⟨fields, valid⟩ := metadata
  obtain ⟨fields', valid'⟩ := other
  obtain rfl : fields = fields' := Keyed.ext_get? same
  rfl

/-- After any edits of empty metadata, keys and values are valid by their bytes; the keys are listed
once each, in strictly increasing order of their bytes, and counted; a key has the value of its last
accepted write that no removal of it follows. The next edit is answered with what its key has, and
is refused exactly if its key or its value is invalid; of two faults that of the key is told, and a
refused write changes nothing. Edits that come to the same values come to the same metadata. -/
theorem last_write_wins (edits : List Edit) :
    let metadata := empty.editAll edits
    (∀ key value, metadata.get? key = some value → IsValidKey key ∧ IsValidValue value) ∧
      (metadata.keys.Pairwise (fun key other => Text.bytes key < Text.bytes other) ∧
        metadata.keys = metadata.toList.map (·.1) ∧ metadata.size = metadata.keys.length ∧
        ∀ key value, (key, value) ∈ metadata.toList ↔ metadata.get? key = some value) ∧
      (∀ key value, metadata.get? key = some value ↔
        ∃ before after, edits = before ++ .insert key value :: after ∧
          IsValidKey key ∧ IsValidValue value ∧ ∀ edit ∈ after, ¬edit.Settles key) ∧
      (∀ key value,
        (IsValidKey key → IsValidValue value →
          (metadata.edit (.insert key value)).2 = .ok (metadata.get? key)) ∧
        (¬IsValidKey key →
          metadata.edit (.insert key value) = (metadata, .error (.invalidKey key))) ∧
        (IsValidKey key → ¬IsValidValue value →
          metadata.edit (.insert key value) = (metadata, .error (.invalidValue key)))) ∧
      (∀ key, (metadata.edit (.remove key)).2 = .ok (metadata.get? key)) ∧
      ∀ others, (∀ key, metadata.get? key = (empty.editAll others).get? key) →
        metadata = empty.editAll others := by
  intro metadata
  refine ⟨?_, ⟨metadata.keys_increasing, rfl, (List.length_map _).symm, ?_⟩, get?_editAll edits,
    ?_, fun key => (metadata.edit_remove key).1, fun others => eq_of_get?⟩
  · intro key value found
    obtain ⟨-, -, -, validKey, validValue, -⟩ := (get?_editAll edits key value).1 found
    exact ⟨validKey, validValue⟩
  · exact fun key value => (Keyed.get?_eq_some_iff metadata.fields key value).symm
  · intro key value
    exact ⟨fun validKey validValue => (metadata.edit_insert_of_valid validKey validValue).1,
      fun invalid => metadata.edit_insert_of_invalidKey invalid value,
      metadata.edit_insert_of_invalidValue⟩

/-- A write over an earlier one, with a refused write after it. -/
theorem last_write_of_three :
    (empty.editAll [.insert "a" "1", .insert "a" "2", .insert "A" "3"]).get? "a" = some "2" := by
  obtain ⟨-, -, found, -⟩ := last_write_wins [.insert "a" "1", .insert "a" "2", .insert "A" "3"]
  refine (found "a" "2").2 ⟨[.insert "a" "1"], [.insert "A" "3"], rfl, ?_, ?_, ?_⟩
  · exact (isKey_iff "a").1 (by decide)
  · exact (isValue_iff "2").1 (by decide)
  · rw [List.forall_mem_singleton]
    rintro ⟨same, -⟩
    exact absurd same (by decide)

end Metadata

end RpcTelemetry
