import Mathlib.Data.List.TakeWhile
import RpcTelemetry.Address

/-!
# Canonical texts of addresses

What the printers of addresses write, the readers read back.

Results:
1. `V4.parse?_render`, `V6.parse?_render`: an address is read back from its canonical text. For
   version 6 the text has one of three shapes, and each is taken apart by the reader the way the
   printer has put it together: at the double colon (`V6.cutGap_renderGroups`), then at the single
   ones (`V6.groups?_renderGroups`).
2. `IpAddress.parse?_render`: no canonical text of one version is taken for one of the other.
3. `IpAddress.parse?_eq_none_of_mem`: a text with anything but digits, colons and dots is no
   address.
-/

namespace RpcTelemetry

open Text

namespace Text

/-- What is in a text is a separator or in one of its parts. -/
theorem mem_parts {sep c : Char} {text : List Char} (present : c ∈ text) (other : c ≠ sep) :
    ∃ part ∈ parts sep text, c ∈ part := by
  induction text with
  | nil => cases present
  | cons first rest ih =>
    by_cases here : first = sep
    · have later : c ∈ rest := (List.mem_cons.1 present).resolve_left fun same =>
        other (same.trans here)
      obtain ⟨part, among, inside⟩ := ih later
      refine ⟨part, ?_, inside⟩
      simp [parts, here, among]
    · cases tail : parts sep rest with
      | nil => exact absurd tail (parts_ne_nil sep rest)
      | cons front others =>
        simp only [parts, here, if_false, tail]
        rcases List.mem_cons.1 present with rfl | later
        · exact ⟨_, List.mem_cons_self, List.mem_cons_self⟩
        · obtain ⟨part, among, inside⟩ := ih later
          rw [tail] at among
          rcases List.mem_cons.1 among with rfl | behind
          · exact ⟨_, List.mem_cons_self, List.mem_cons_of_mem _ inside⟩
          · exact ⟨part, List.mem_cons_of_mem _ behind, inside⟩

end Text

/-! ## Version 4 -/

namespace V4

/-- A byte reads back from its decimal digits. -/
theorem octet?_digits (byte : BitVec 8) : octet? (digits 10 byte.toNat) = some byte := by
  have short : (digits 10 byte.toNat).length ≤ 3 :=
    (Nat.length_toDigits_le_iff (by decide) (by decide)).2 (Nat.lt_trans byte.isLt (by decide))
  have plain : (digits 10 byte.toNat).head? = some '0' → (digits 10 byte.toNat).length = 1 := by
    intro zero
    rcases Nat.eq_zero_or_pos byte.toNat with none | positive
    · rw [none]
      rfl
    · exact absurd zero (head?_digits_ne_zero (by decide) _ (by decide) positive)
  rw [octet?, if_pos ⟨short, plain⟩, natural?_digits (by decide) _ (by decide),
    Option.filter_some, if_pos (decide_eq_true byte.isLt), Option.map_some, BitVec.ofNat_toNat,
    BitVec.setWidth_eq]

theorem octet?_eq_none_of_mem {c : Char} {text : List Char} (present : c ∈ text)
    (noDigit : digitValue? 10 c = none) : octet? text = none := by
  unfold octet?
  rw [natural?_eq_none_of_mem present noDigit]
  exact ite_self _

theorem not_mem_render {c : Char} (noDigit : digitValue? 16 c = none) (other : c ≠ '.')
    (address : V4) : c ∉ address.render := by
  have free (byte : BitVec 8) : c ∉ digits 10 byte.toNat :=
    not_mem_digits (by decide) _ (by decide) noDigit
  simp [render, free, other]

/-- An address of four bytes reads back from its canonical text. -/
theorem parse?_render (address : V4) : parse? address.render = some address := by
  have free (byte : BitVec 8) : '.' ∉ digits 10 byte.toNat :=
    not_mem_digits (by decide) _ (by decide) (by decide)
  have apart : parts '.' address.render = [digits 10 address.first.toNat,
      digits 10 address.second.toNat, digits 10 address.third.toNat,
      digits 10 address.fourth.toNat] := by
    simp only [render, List.append_assoc, List.cons_append, List.nil_append]
    rw [parts_append (free _), parts_append (free _), parts_append (free _), parts_of_free (free _)]
  rw [parse?, apart]
  simp only [octet?_digits]
  rfl

theorem parse?_eq_none_of_mem {c : Char} {text : List Char} (present : c ∈ text)
    (noDigit : digitValue? 10 c = none) (other : c ≠ '.') : parse? text = none := by
  obtain ⟨part, among, inside⟩ := mem_parts present other
  have spoiled := octet?_eq_none_of_mem inside noDigit
  unfold parse?
  split
  · next first second third fourth all =>
    rw [all] at among
    simp only [List.mem_cons, List.not_mem_nil, or_false] at among
    rcases among with rfl | rfl | rfl | rfl
    · simp [spoiled]
    · simp [spoiled]
    · simp [spoiled]
    · simp [spoiled]
  · rfl

end V4

/-! ## Version 6 -/

namespace V6

/-- A group reads back from its hexadecimal digits. -/
theorem group?_digits (group : BitVec 16) : group? (digits 16 group.toNat) = some group := by
  have short : (digits 16 group.toNat).length ≤ 4 :=
    (Nat.length_toDigits_le_iff (by decide) (by decide)).2 group.isLt
  rw [group?, if_pos short, natural?_digits (by decide) _ (by decide), Option.map_some,
    BitVec.ofNat_toNat, BitVec.setWidth_eq]

theorem group?_eq_none_of_mem {c : Char} {text : List Char} (present : c ∈ text)
    (noDigit : digitValue? 16 c = none) : group? text = none := by
  unfold group?
  rw [natural?_eq_none_of_mem present noDigit]
  exact ite_self _

theorem renderGroups_cons_cons (first second : BitVec 16) (others : List (BitVec 16)) :
    renderGroups (first :: second :: others) =
      digits 16 first.toNat ++ ':' :: renderGroups (second :: others) :=
  intercalate_cons_cons ':' _ _ _

theorem renderGroups_singleton (group : BitVec 16) :
    renderGroups [group] = digits 16 group.toNat := List.append_nil _

theorem renderGroups_ne_nil (first : BitVec 16) (others : List (BitVec 16)) :
    renderGroups (first :: others) ≠ [] := by
  cases others with
  | nil =>
    rw [renderGroups_singleton]
    exact digits_ne_nil 16 _
  | cons second others =>
    rw [renderGroups_cons_cons]
    exact List.append_ne_nil_of_right_ne_nil _ (List.cons_ne_nil _ _)

theorem not_mem_renderGroups {c : Char} (noDigit : digitValue? 16 c = none) (other : c ≠ ':')
    (groups : List (BitVec 16)) : c ∉ renderGroups groups := by
  have free (group : BitVec 16) : c ∉ digits 16 group.toNat :=
    not_mem_digits (by decide) _ (by decide) noDigit
  induction groups with
  | nil => exact List.not_mem_nil
  | cons first rest ih =>
    cases rest with
    | nil =>
      rw [renderGroups_singleton]
      exact free first
    | cons second others =>
      rw [renderGroups_cons_cons, List.mem_append, List.mem_cons]
      exact not_or.2 ⟨free first, not_or.2 ⟨other, ih⟩⟩

/-- Groups read back from their text, whether or not the reader expects an address of version 4 at
the end. -/
theorem groups?_renderGroups (dotted : Bool) (groups : List (BitVec 16)) :
    groups? dotted (renderGroups groups) = some groups := by
  have read (groups : List (BitVec 16)) :
      groupParts? dotted (groups.map fun group => digits 16 group.toNat) = some groups := by
    induction groups with
    | nil => rfl
    | cons first rest ih =>
      cases rest with
      | nil => simp [groupParts?, group?_digits]
      | cons second others =>
        rw [List.map_cons] at ih
        simp [groupParts?, group?_digits, ih]
  cases groups with
  | nil => rfl
  | cons first others =>
    have apart : parts ':' (renderGroups (first :: others)) =
        (first :: others).map fun group => digits 16 group.toNat := by
      have free : ∀ part ∈ (first :: others).map fun group => digits 16 group.toNat, ':' ∉ part :=
        List.forall_mem_map.2 fun _ _ => not_mem_digits (by decide) _ (by decide) (by decide)
      exact parts_intercalate free
    rw [groups?, List.isEmpty_eq_false_iff.2 (renderGroups_ne_nil first others),
      if_neg Bool.false_ne_true, apart, read]

/-! ### The double colon -/

theorem cutGap_cons {c : Char} {text : List Char}
    (single : c = ':' → text.head? ≠ some ':') :
    cutGap (c :: text) = (cutGap text).map fun (before, after) => (c :: before, after) := by
  rw [cutGap]
  rintro rest rfl rfl
  exact single rfl rfl

/-- No gap is within a part without colons. -/
theorem cutGap_append {part : List Char} (free : ':' ∉ part) (text : List Char) :
    cutGap (part ++ text) = (cutGap text).map fun (before, after) => (part ++ before, after) := by
  induction part with
  | nil => simp
  | cons c rest ih =>
    obtain ⟨other, free⟩ : ¬ ':' = c ∧ ':' ∉ rest := by simpa using free
    rw [List.cons_append, cutGap_cons fun same => absurd same.symm other, ih free, Option.map_map]
    rfl

/-- There is no gap among groups, so the first one comes after them. -/
theorem cutGap_renderGroups (groups : List (BitVec 16)) (text : List Char) :
    cutGap (renderGroups groups ++ text) =
      (cutGap text).map fun (before, after) => (renderGroups groups ++ before, after) := by
  have free (group : BitVec 16) : ':' ∉ digits 16 group.toNat :=
    not_mem_digits (by decide) _ (by decide) (by decide)
  induction groups with
  | nil => simp [renderGroups]
  | cons first rest ih =>
    cases rest with
    | nil =>
      rw [renderGroups_singleton]
      exact cutGap_append (free first) text
    | cons second others =>
      have single : (renderGroups (second :: others) ++ text).head? ≠ some ':' := by
        obtain ⟨c, more, shown⟩ := List.exists_cons_of_ne_nil (digits_ne_nil 16 second.toNat)
        have digit : ':' ≠ c := fun same => free second (shown ▸ same ▸ List.mem_cons_self)
        cases others with
        | nil =>
          rw [renderGroups_singleton, shown]
          exact fun same => digit (Option.some.inj same).symm
        | cons third others =>
          rw [renderGroups_cons_cons, shown]
          exact fun same => digit (Option.some.inj same).symm
      rw [renderGroups_cons_cons, List.append_assoc, cutGap_append (free first), List.cons_append,
        cutGap_cons fun _ => single, ih, Option.map_map, Option.map_map]
      congr 1
      funext ⟨before, after⟩
      simp

theorem eq_append_of_cutGap {text before after : List Char}
    (cut : cutGap text = some (before, after)) : text = before ++ ':' :: ':' :: after := by
  fun_induction cutGap text generalizing before with
  | case1 rest =>
    obtain ⟨rfl, rfl⟩ := Prod.mk.inj (Option.some.inj cut)
    rfl
  | case2 => cases cut
  | case3 c rest _ ih =>
    obtain ⟨⟨front, back⟩, found, same⟩ := Option.map_eq_some_iff.1 cut
    obtain ⟨rfl, rfl⟩ := Prod.mk.inj same
    rw [ih found]
    rfl

/-! ### The longest run of zeros -/

variable (address : V6)

theorem longestZeros_le :
    address.longestZeros.2 ≤ address.zerosFrom address.longestZeros.1 := by
  have better (starts : List Nat) (best : Nat × Nat) (run : best.2 ≤ address.zerosFrom best.1) :
      let found := starts.foldl (fun best start =>
        let length := address.zerosFrom start
        if best.2 < length then (start, length) else best) best
      found.2 ≤ address.zerosFrom found.1 := by
    induction starts generalizing best with
    | nil => exact run
    | cons start rest ih =>
      refine ih _ ?_
      dsimp only
      split
      · exact Nat.le_refl _
      · exact run
  exact better (List.range 8) (0, 0) (Nat.zero_le _)

/-- A run of zeros is the part of the groups that it was counted from. -/
theorem groups_eq_of_zeros {start length : Nat} (run : length ≤ address.zerosFrom start) :
    address.groups =
      address.groups.take start ++ List.replicate length 0 ++
        address.groups.drop (start + length) := by
  have zeros : (address.groups.drop start).take length = List.replicate length 0 := by
    obtain ⟨rest, parted⟩ : ((address.groups.drop start).takeWhile (· = 0)) <+:
        address.groups.drop start := List.takeWhile_prefix _
    rw [← parted, List.take_append_of_le_length run]
    refine List.eq_replicate_iff.2 ⟨?_, fun group present => ?_⟩
    · rw [List.length_take]
      exact Nat.min_eq_left run
    · have zero := List.mem_takeWhile_imp (List.mem_of_mem_take present)
      exact of_decide_eq_true zero
  calc address.groups
      = address.groups.take start ++ address.groups.drop start :=
        (List.take_append_drop start address.groups).symm
    _ = address.groups.take start ++ ((address.groups.drop start).take length ++
          (address.groups.drop start).drop length) := by
        rw [List.take_append_drop length, List.take_append_drop]
    _ = _ := by rw [zeros, List.drop_drop, List.append_assoc]

theorem add_zerosFrom_le {start : Nat} (some_zero : 0 < address.zerosFrom start) :
    start + address.zerosFrom start ≤ 8 := by
  have bound := (List.takeWhile_prefix (l := address.groups.drop start) (p := (· = 0))).length_le
  rw [List.length_drop, address.length_groups] at bound
  change address.zerosFrom start ≤ 8 - start at bound
  omega

/-! ### Reading back -/

variable {address}

theorem groups_of_mapped? {inner : V4} (mapped : address.mapped? = some inner) :
    address.groups = [0, 0, 0, 0, 0, 0xffff] ++ inner.groups := by
  unfold mapped? at mapped
  split at mapped
  · next high low found =>
    obtain rfl := Option.some.inj mapped
    have halves (group : BitVec 16) : group.extractLsb' 8 8 ++ group.extractLsb' 0 8 = group := by
      apply BitVec.eq_of_toNat_eq
      have := group.isLt
      simp only [BitVec.toNat_append, BitVec.extractLsb'_toNat, Nat.shiftRight_zero]
      rw [← Nat.shiftLeft_add_eq_or_of_lt (Nat.mod_lt _ (by decide))]
      simp only [Nat.shiftLeft_eq, Nat.shiftRight_eq_div_pow]
      omega
    rw [found, V4.groups, halves, halves]
    rfl
  · cases mapped

/-- The reader takes a mapped address apart at the gap and then reads its last part as an address of
version 4. -/
theorem parse?_mapped (inner : V4) :
    parse? ([':', ':', 'f', 'f', 'f', 'f', ':'] ++ inner.render) =
      some ⟨[0, 0, 0, 0, 0, 0xffff] ++ inner.groups, rfl⟩ := by
  have dotted : group? inner.render = none := by
    refine group?_eq_none_of_mem (c := '.') ?_ (by decide)
    simp [V4.render]
  have back : groups? true (['f', 'f', 'f', 'f'] ++ ':' :: inner.render) =
      some (0xffff :: inner.groups) := by
    have first : group? ['f', 'f', 'f', 'f'] = some 0xffff := by decide
    rw [groups?, if_neg (by simp), parts_append (by decide),
      parts_of_free (V4.not_mem_render (by decide) (by decide) inner)]
    simp only [groupParts?, first, dotted, if_true, V4.parse?_render]
    rfl
  have gap : cutGap ([':', ':', 'f', 'f', 'f', 'f', ':'] ++ inner.render) =
      some ([], ['f', 'f', 'f', 'f'] ++ ':' :: inner.render) := rfl
  rw [parse?, gap]
  simp only [back]
  rfl

theorem parse?_gap {front back : List (BitVec 16)} (room : front.length + back.length < 8)
    (complete :
      (front ++ List.replicate (8 - front.length - back.length) 0 ++ back).length = 8) :
    parse? (renderGroups front ++ [':', ':'] ++ renderGroups back) = some ⟨_, complete⟩ := by
  have cut : cutGap (renderGroups front ++ [':', ':'] ++ renderGroups back) =
      some (renderGroups front, renderGroups back) := by
    rw [List.append_assoc, cutGap_renderGroups]
    exact congrArg (fun text => some (text, renderGroups back)) (List.append_nil _)
  rw [parse?, cut]
  simp only [groups?_renderGroups, Option.bind_eq_bind, Option.bind_some, dif_pos room]

theorem parse?_groups (address : V6) : parse? (renderGroups address.groups) = some address := by
  have cut := cutGap_renderGroups address.groups []
  rw [List.append_nil] at cut
  rw [parse?, cut]
  simp only [cutGap, Option.map_none, groups?_renderGroups, Option.bind_eq_bind, Option.bind_some,
    dif_pos address.length_groups]

/-- An address of eight groups reads back from its canonical text. -/
theorem parse?_render (address : V6) : parse? address.render = some address := by
  obtain ⟨groups, complete⟩ := address
  unfold render
  split
  · next inner mapped =>
    have same := groups_of_mapped? mapped
    dsimp only at same
    subst same
    exact parse?_mapped inner
  · dsimp only
    split
    · next long =>
      -- What the double colon stands for is as long as what was left out.
      have run := longestZeros_le ⟨groups, complete⟩
      have room := add_zerosFrom_le ⟨groups, complete⟩
        (Nat.lt_of_lt_of_le (Nat.lt_trans Nat.zero_lt_one long) run)
      have parted := groups_eq_of_zeros ⟨groups, complete⟩ run
      generalize (longestZeros ⟨groups, complete⟩).1 = start at *
      generalize (longestZeros ⟨groups, complete⟩).2 = length at *
      have front : (groups.take start).length = start := by
        rw [List.length_take, complete]
        omega
      have back : (groups.drop (start + length)).length = 8 - (start + length) := by
        rw [List.length_drop, complete]
      have filled : 8 - (groups.take start).length - (groups.drop (start + length)).length =
          length := by
        rw [front, back]
        omega
      have whole : groups.take start ++ List.replicate (8 - (groups.take start).length -
          (groups.drop (start + length)).length) 0 ++ groups.drop (start + length) = groups := by
        rw [filled]
        exact parted.symm
      rw [parse?_gap (by rw [front, back]; omega) (whole.symm ▸ complete)]
      congr
    · exact parse?_groups ⟨groups, complete⟩

theorem not_mem_render {c : Char} (noDigit : digitValue? 16 c = none) (noColon : c ≠ ':')
    (noDot : c ≠ '.') (address : V6) : c ∉ address.render := by
  unfold render
  split
  · next inner _ =>
    have letter : c ≠ 'f' := by
      rintro rfl
      revert noDigit
      decide
    simp [noColon, letter, V4.not_mem_render noDigit noDot inner]
  · dsimp only
    split
    · simp [noColon, not_mem_renderGroups noDigit noColon]
    · exact not_mem_renderGroups noDigit noColon _

/-! ### Refused texts -/

theorem groups?_eq_none_of_mem {c : Char} {text : List Char} (present : c ∈ text)
    (noDigit : digitValue? 16 c = none) (noDecimal : digitValue? 10 c = none) (noColon : c ≠ ':')
    (noDot : c ≠ '.') (dotted : Bool) : groups? dotted text = none := by
  have spoiled {all : List (List Char)} {part : List Char} (among : part ∈ all)
      (inside : c ∈ part) : groupParts? dotted all = none := by
    have noGroup := group?_eq_none_of_mem inside noDigit
    fun_induction groupParts? dotted all with
    | case1 => cases among
    | case2 last group found =>
      obtain rfl := List.mem_singleton.1 among
      rw [noGroup] at found
      cases found
    | case3 last _ isDotted =>
      obtain rfl := List.mem_singleton.1 among
      rw [V4.parse?_eq_none_of_mem inside noDecimal noDot]
      rfl
    | case4 => rfl
    | case5 first rest _ ih =>
      rcases List.mem_cons.1 among with rfl | later
      · rw [noGroup]
        rfl
      · rw [ih later]
        cases group? first <;> rfl
  obtain ⟨part, among, inside⟩ := mem_parts present noColon
  rw [groups?, if_neg (by simp [List.ne_nil_of_mem present]), spoiled among inside]

theorem parse?_eq_none_of_mem {c : Char} {text : List Char} (present : c ∈ text)
    (noDigit : digitValue? 16 c = none) (noDecimal : digitValue? 10 c = none) (noColon : c ≠ ':')
    (noDot : c ≠ '.') : parse? text = none := by
  have spoiled {text : List Char} (present : c ∈ text) (dotted : Bool) :
      groups? dotted text = none :=
    groups?_eq_none_of_mem present noDigit noDecimal noColon noDot dotted
  unfold parse?
  split
  · rw [spoiled present]
    rfl
  · next before after cut =>
    rw [eq_append_of_cutGap cut, List.mem_append, List.mem_cons, List.mem_cons] at present
    rcases present with front | same | same | back
    · rw [spoiled front]
      rfl
    · exact absurd same noColon
    · exact absurd same noColon
    · rw [spoiled back]
      cases groups? false before <;> rfl

end V6

/-! ## Either version -/

/-- An address of either version. -/
inductive IpAddress where
  | v4 (address : V4)
  | v6 (address : V6)
  deriving DecidableEq

namespace IpAddress

/-- Reads an address of either version. -/
def parse? (text : List Char) : Option IpAddress :=
  ((V4.parse? text).map IpAddress.v4).or ((V6.parse? text).map IpAddress.v6)

/-- The canonical text. -/
def render : IpAddress → List Char
  | .v4 address => address.render
  | .v6 address => address.render

theorem isSome_parse? (text : List Char) : (parse? text).isSome = isAddress text := by
  unfold parse? isAddress
  cases V4.parse? text <;> cases V6.parse? text <;> rfl

/-- An address reads back from its canonical text, in its own version. -/
theorem parse?_render (address : IpAddress) : parse? address.render = some address := by
  cases address with
  | v4 address =>
    show ((V4.parse? address.render).map IpAddress.v4).or _ = _
    rw [V4.parse?_render]
    rfl
  | v6 address =>
    -- A text of version 6 has a colon, which a byte has not.
    have colon : ':' ∈ address.render := by
      unfold V6.render
      split
      · simp
      · dsimp only
        split
        · simp
        · obtain ⟨groups, complete⟩ := address
          obtain ⟨first, second, others, rfl⟩ :
              ∃ first second others, groups = first :: second :: others := by
            match groups, complete with
            | first :: second :: others, _ => exact ⟨first, second, others, rfl⟩
          simp [V6.renderGroups_cons_cons]
    show ((V4.parse? address.render).map IpAddress.v4).or
      ((V6.parse? address.render).map IpAddress.v6) = _
    rw [V4.parse?_eq_none_of_mem colon (by decide) (by decide), V6.parse?_render]
    rfl

theorem parse?_eq_none_of_mem {c : Char} {text : List Char} (present : c ∈ text)
    (noDigit : digitValue? 16 c = none) (noDecimal : digitValue? 10 c = none) (noColon : c ≠ ':')
    (noDot : c ≠ '.') : parse? text = none := by
  rw [parse?, V4.parse?_eq_none_of_mem present noDecimal noDot,
    V6.parse?_eq_none_of_mem present noDigit noDecimal noColon noDot]
  rfl

theorem not_mem_render {c : Char} (noDigit : digitValue? 16 c = none) (noColon : c ≠ ':')
    (noDot : c ≠ '.') (address : IpAddress) : c ∉ address.render := by
  cases address with
  | v4 address => exact V4.not_mem_render noDigit noDot address
  | v6 address => exact V6.not_mem_render noDigit noColon noDot address

theorem render_ne_nil (address : IpAddress) : address.render ≠ [] := by
  intro empty
  have read := parse?_render address
  have nothing : parse? [] = none := by decide
  rw [empty, nothing] at read
  cases read

end IpAddress

end RpcTelemetry
