/-!
# Numbers written in a radix

Reading and writing of whole numbers. A reader accepts at least one digit and nothing else; the
readers for words of a fixed width also accept a sign and refuse what does not fit.

Main statements: `natural?_hexPadded` and `word?_hexPadded`, which read back what `hexPadded`
writes, and `natural?_digits` and `int64?_digits`, which read back what `digits` writes.
-/

namespace RpcTelemetry.Text

/-- The value of a digit below `radix`; letters of either case count on from ten. -/
def digitValue? (radix : Nat) (c : Char) : Option Nat :=
  let value :=
    if '0' ≤ c ∧ c ≤ '9' then some (c.toNat - '0'.toNat)
    else if 'a' ≤ c ∧ c ≤ 'z' then some (c.toNat - 'a'.toNat + 10)
    else if 'A' ≤ c ∧ c ≤ 'Z' then some (c.toNat - 'A'.toNat + 10)
    else none
  value.filter (· < radix)

/-- Appends digits to a number already read; `none` at the first character that is no digit. -/
def appendDigits? (radix : Nat) : Nat → List Char → Option Nat
  | value, [] => some value
  | value, c :: rest =>
    (digitValue? radix c).bind fun digit => appendDigits? radix (value * radix + digit) rest

/-- The number that a non-empty list of digits stands for. -/
def natural? (radix : Nat) (text : List Char) : Option Nat :=
  if text.isEmpty then none else appendDigits? radix 0 text

/-- A number of at most `width` bits: an optional plus sign and digits. -/
def word? (radix width : Nat) (text : List Char) : Option (BitVec width) :=
  let digits := dropPlus text
  ((natural? radix digits).filter (· < 1 <<< width)).map (BitVec.ofNat width)
where
  /-- The text without one leading plus sign. -/
  dropPlus : List Char → List Char
    | '+' :: rest => rest
    | text => text

/-- A signed decimal number of 64 bits: an optional sign and digits. -/
def int64? (text : List Char) : Option Int :=
  let value : Option Int := match text with
    | '-' :: digits => (natural? 10 digits).map fun n => -(n : Int)
    | '+' :: digits => (natural? 10 digits).map Int.ofNat
    | digits => (natural? 10 digits).map Int.ofNat
  value.filter fun n => Int64.minValue.toInt ≤ n ∧ n ≤ Int64.maxValue.toInt

/-- Whether a text is a real number: after an optional sign, digits with at most one point among
them and perhaps an exponent, or the name of infinity or of no number, in any case. -/
def isReal (text : List Char) : Bool :=
  let text := dropSign text
  isNamed (text.map Char.toLower) || isDecimal text
where
  /-- The text without one leading sign. -/
  dropSign : List Char → List Char
    | '+' :: rest => rest
    | '-' :: rest => rest
    | text => text
  /-- Whether a text in lower case names a value that no digits have. -/
  isNamed (text : List Char) : Bool :=
    ["inf", "infinity", "nan"].contains (String.ofList text)
  /-- Whether a text is empty or an exponent. -/
  isExponent : List Char → Bool
    | [] => true
    | e :: rest =>
      (e == 'e' || e == 'E') && !(dropSign rest).isEmpty && (dropSign rest).all Char.isDigit
  /-- Whether a text is a decimal number without a sign. -/
  isDecimal (text : List Char) : Bool :=
    let whole := text.takeWhile Char.isDigit
    match text.drop whole.length with
    | '.' :: rest =>
      let fraction := rest.takeWhile Char.isDigit
      !(whole.isEmpty && fraction.isEmpty) && isExponent (rest.drop fraction.length)
    | rest => !whole.isEmpty && isExponent rest

/-- The digit of a value below sixteen. -/
def hexDigit (value : Nat) : Char :=
  if value < 10 then Char.ofNat ('0'.toNat + value) else Char.ofNat ('a'.toNat + (value - 10))

/-- The last `width` hexadecimal digits of a number, in lower case. -/
def hexPadded : Nat → Nat → List Char
  | 0, _ => []
  | width + 1, value => hexPadded width (value / 16) ++ [hexDigit (value % 16)]

theorem length_hexPadded (width value : Nat) : (hexPadded width value).length = width := by
  induction width generalizing value with
  | zero => rfl
  | succ width ih => simp [hexPadded, ih]

theorem digitValue?_hexDigit : ∀ value < 16, digitValue? 16 (hexDigit value) = some value := by
  decide

theorem hexDigit_ne_plus : ∀ value < 16, hexDigit value ≠ '+' := by decide

theorem appendDigits?_append (radix value : Nat) (front back : List Char) :
    appendDigits? radix value (front ++ back) =
      (appendDigits? radix value front).bind fun read => appendDigits? radix read back := by
  induction front generalizing value with
  | nil => rfl
  | cons c front ih =>
    cases digit : digitValue? radix c <;> simp [appendDigits?, digit, ih]

theorem appendDigits?_hexPadded (width before value : Nat) :
    appendDigits? 16 before (hexPadded width value) =
      some (before * Nat.pow 16 width + value % Nat.pow 16 width) := by
  induction width generalizing value with
  | zero => simp [hexPadded, appendDigits?, Nat.mod_one]
  | succ width ih =>
    have last := digitValue?_hexDigit (value % 16) (Nat.mod_lt _ (by decide))
    simp only [hexPadded, appendDigits?_append, ih, appendDigits?, last, Option.bind_some,
      Option.some.injEq]
    have grown : Nat.pow 16 (width + 1) = 16 * Nat.pow 16 width := Nat.mul_comm _ _
    have split : value % Nat.pow 16 (width + 1) =
        value % 16 + 16 * (value / 16 % Nat.pow 16 width) := by
      rw [grown, Nat.mod_mul]
    rw [split, grown, Nat.add_mul, Nat.mul_comm 16 (Nat.pow 16 width), ← Nat.mul_assoc]
    omega

/-- Padded digits read back as the number without what was cut off. -/
theorem natural?_hexPadded {width : Nat} (some_width : 0 < width) (value : Nat) :
    natural? 16 (hexPadded width value) = some (value % Nat.pow 16 width) := by
  have filled : (hexPadded width value).isEmpty = false := by
    simp [← List.length_eq_zero_iff, length_hexPadded, Nat.ne_of_gt some_width]
  simp [natural?, filled, appendDigits?_hexPadded]

theorem head?_hexPadded_ne_plus (width value : Nat) :
    (hexPadded width value).head? ≠ some '+' := by
  induction width generalizing value with
  | zero => simp [hexPadded]
  | succ width ih =>
    cases front : hexPadded width (value / 16) with
    | nil =>
      simpa [hexPadded, front] using hexDigit_ne_plus (value % 16) (Nat.mod_lt _ (by decide))
    | cons c rest =>
      have above := ih (value / 16)
      simpa [hexPadded, front] using above

theorem dropPlus_of_head?_ne {text : List Char} (other : text.head? ≠ some '+') :
    word?.dropPlus text = text := by
  unfold word?.dropPlus
  split
  · simp at other
  · rfl

/-- A word reads back from as many padded digits as it takes. -/
theorem word?_hexPadded {bits width : Nat} (some_width : 0 < width) (enough : bits ≤ 4 * width)
    (word : BitVec bits) : word? 16 bits (hexPadded width word.toNat) = some word := by
  have fits : word.toNat < Nat.pow 16 width := by
    refine Nat.lt_of_lt_of_le word.isLt ?_
    show 2 ^ bits ≤ 16 ^ width
    rw [show 16 = 2 ^ 4 from rfl, ← Nat.pow_mul]
    exact Nat.pow_le_pow_right (by decide) enough
  have narrow : word.toNat < 1 <<< bits := by
    rw [Nat.one_shiftLeft]
    exact word.isLt
  simp only [word?, dropPlus_of_head?_ne (head?_hexPadded_ne_plus width word.toNat),
    natural?_hexPadded some_width, Nat.mod_eq_of_lt fits, Option.filter_some, decide_eq_true_eq,
    narrow, if_true, Option.map_some, BitVec.ofNat_toNat, BitVec.setWidth_eq]

/-- The digits of a number in `radix`, without leading zeros. -/
def digits (radix value : Nat) : List Char := Nat.toDigits radix value

theorem digits_of_lt {radix value : Nat} (below : value < radix) :
    digits radix value = [Nat.digitChar value] := Nat.toDigits_of_lt_base below

/-- The last digit stands for the remainder. -/
theorem digits_of_le {radix value : Nat} (some_radix : 1 < radix) (above : radix ≤ value) :
    digits radix value = digits radix (value / radix) ++ [Nat.digitChar (value % radix)] := by
  unfold digits
  rw [Nat.toDigits_eq_if some_radix, if_neg (Nat.not_lt.2 above)]

theorem digitValue?_digitChar :
    ∀ radix ≤ 16, ∀ digit < radix, digitValue? radix (Nat.digitChar digit) = some digit := by
  decide

theorem digits_ne_nil (radix value : Nat) : digits radix value ≠ [] := Nat.toDigits_ne_nil

section

variable {radix : Nat} (some_radix : 1 < radix) (value : Nat)

include some_radix

/-- Every digit is one of the sixteen, so a character that is none of them is not among digits. -/
theorem not_mem_digits (known : radix ≤ 16) {c : Char} (noDigit : digitValue? 16 c = none) :
    c ∉ digits radix value := by
  have other {digit : Nat} (below : digit < 16) : c ≠ Nat.digitChar digit := by
    rintro rfl
    rw [digitValue?_digitChar 16 (Nat.le_refl 16) digit below] at noDigit
    cases noDigit
  induction value using Nat.strongRecOn with
  | ind value ih =>
    rcases Nat.lt_or_ge value radix with below | above
    · rw [digits_of_lt below, List.mem_singleton]
      exact other (Nat.lt_of_lt_of_le below known)
    · have remainder : value % radix < radix := Nat.mod_lt value (by omega)
      rw [digits_of_le some_radix above, List.mem_append, List.mem_singleton]
      exact not_or.2 ⟨ih _ (Nat.div_lt_self (by omega) some_radix),
        other (Nat.lt_of_lt_of_le remainder known)⟩

/-- Only the number 0 starts with the digit 0. -/
theorem head?_digits_ne_zero (known : radix ≤ 16) (positive : 0 < value) :
    (digits radix value).head? ≠ some '0' := by
  have nonzero : ∀ digit < 16, 0 < digit → Nat.digitChar digit ≠ '0' := by decide
  induction value using Nat.strongRecOn with
  | ind value ih =>
    rcases Nat.lt_or_ge value radix with below | above
    · rw [digits_of_lt below, List.head?_cons]
      exact mt Option.some.inj (nonzero value (Nat.lt_of_lt_of_le below known) positive)
    · have front := ih _ (Nat.div_lt_self positive some_radix)
        (Nat.div_pos above (Nat.lt_trans Nat.zero_lt_one some_radix))
      rw [digits_of_le some_radix above]
      obtain ⟨first, rest, same⟩ := List.exists_cons_of_ne_nil (digits_ne_nil radix (value / radix))
      rwa [same] at front ⊢

theorem appendDigits?_digits (known : radix ≤ 16) :
    appendDigits? radix 0 (digits radix value) = some value := by
  induction value using Nat.strongRecOn with
  | ind value ih =>
    rcases Nat.lt_or_ge value radix with below | above
    · simp [digits_of_lt below, appendDigits?, digitValue?_digitChar radix known value below]
    · have last := digitValue?_digitChar radix known (value % radix)
        (Nat.mod_lt value (by omega))
      rw [digits_of_le some_radix above, appendDigits?_append,
        ih _ (Nat.div_lt_self (by omega) some_radix)]
      simp only [Option.bind_some, appendDigits?, last, Nat.div_add_mod']

/-- Digits read back as the number that they were written for. -/
theorem natural?_digits (known : radix ≤ 16) :
    natural? radix (digits radix value) = some value := by
  rw [natural?, List.isEmpty_eq_false_iff.2 (digits_ne_nil radix value)]
  exact appendDigits?_digits some_radix value known

end

/-- A number that fits reads back as a signed one; its digits have no sign. -/
theorem int64?_digits {value : Nat} (fits : (value : Int) ≤ Int64.maxValue.toInt) :
    int64? (digits 10 value) = some (value : Int) := by
  have unsigned {c : Char} (noDigit : digitValue? 16 c = none) : c ∉ digits 10 value :=
    not_mem_digits (by decide) value (by decide) noDigit
  have positive : Int64.minValue.toInt ≤ (value : Int) :=
    Int.le_trans (by decide) (Int.natCast_nonneg value)
  unfold int64?
  dsimp only
  split
  · next rest shown =>
    refine absurd ?_ (unsigned (c := '-') (by decide))
    rw [shown]
    exact List.mem_cons_self
  · next rest shown =>
    refine absurd ?_ (unsigned (c := '+') (by decide))
    rw [shown]
    exact List.mem_cons_self
  · rw [natural?_digits (by decide) value (by decide), Option.map_some, Option.filter_some,
      if_pos (decide_eq_true ⟨positive, fits⟩)]
    rfl

theorem appendDigits?_eq_none_of_mem {radix : Nat} {c : Char} {text : List Char}
    (present : c ∈ text) (noDigit : digitValue? radix c = none) (value : Nat) :
    appendDigits? radix value text = none := by
  induction text generalizing value with
  | nil => cases present
  | cons first rest ih =>
    unfold appendDigits?
    rcases List.mem_cons.1 present with rfl | later
    · rw [noDigit, Option.bind_none]
    · exact Option.bind_eq_none_iff.2 fun digit _ => ih later _

/-- A text with a character that is no digit is no number. -/
theorem natural?_eq_none_of_mem {radix : Nat} {c : Char} {text : List Char}
    (present : c ∈ text) (noDigit : digitValue? radix c = none) : natural? radix text = none := by
  unfold natural?
  split
  · rfl
  · exact appendDigits?_eq_none_of_mem present noDigit 0

end RpcTelemetry.Text
