import RpcTelemetry.Payload.Serial
import RpcTelemetry.Proofs.Decimal.FirstDigit
import RpcTelemetry.Proofs.Payload.Reader

/-!
# The spelling of numbers

A number of a document is a whole part, perhaps a fraction and perhaps an exponent. All numbers
that are written are spelled so, with no zero in front of a whole part of several digits.

Results:
1. `isNumber_int`: whole numbers of either sign.
2. `isNumber_render`: finite floating-point numbers, positional or with an exponent.
-/

namespace RpcTelemetry.Payload

open Json

/-! ## Parts of a number -/

theorem isWhole_of_head? {text : List Char} (some_text : text ≠ [])
    (led : text.head? ≠ some '0') : isWhole text = true := by
  unfold isWhole
  split
  · exact absurd rfl some_text
  · rfl
  · next first _ _ =>
    simpa using led

/-- What follows a whole part does not go on with a digit. -/
theorem head?_of_isTail {tail : List Char} (ends : isTail tail = true) :
    ∀ c ∈ tail.head?, c.isDigit = false := by
  unfold isTail at ends
  split at ends
  · rintro _ ⟨⟩
    rfl
  unfold isExponent at ends
  split at ends
  · rintro _ ⟨⟩
  · simp only [Bool.and_eq_true, Bool.or_eq_true, beq_iff_eq] at ends
    rintro _ ⟨⟩
    rcases ends.1.1 with rfl | rfl <;> rfl

theorem isUnsigned_append (run : List Char) {tail : List Char}
    (digits : run.all Char.isDigit = true) (starts : isWhole run = true)
    (ends : isTail tail = true) : isUnsigned (run ++ tail) = true := by
  have next := head?_of_isTail ends
  rw [isUnsigned, takeWhile_run digits next, dropWhile_run digits next, starts, ends]
  rfl

theorem isTail_of_isExponent {text : List Char} (exponent : isExponent text = true) :
    isTail text = true := by
  unfold isTail
  split
  · cases exponent
  · exact exponent

theorem isTail_fraction {run exponent : List Char} (some_run : run ≠ [])
    (digits : run.all Char.isDigit = true) (ends : isExponent exponent = true) :
    isTail ('.' :: (run ++ exponent)) = true := by
  have next := head?_of_isTail (isTail_of_isExponent ends)
  simp [isTail, takeWhile_run digits next, dropWhile_run digits next, some_run, ends]

theorem isTail_digits {run : List Char} (some_run : run ≠ [])
    (digits : run.all Char.isDigit = true) : isTail ('.' :: run) = true := by
  rw [← List.append_nil run]
  exact isTail_fraction some_run digits rfl

theorem isNumber_of_isUnsigned {text : List Char} (unsigned : isUnsigned text = true) :
    isNumber text = true := by
  unfold isNumber
  split
  · cases unsigned
  · exact unsigned

/-! ## Whole numbers -/

theorem all_toDigits (n : Nat) : (Nat.toDigits 10 n).all Char.isDigit = true :=
  List.all_eq_true.2 fun _ present => Nat.isDigit_of_mem_toDigits (by decide) (by decide) present

theorem isUnsigned_toDigits (n : Nat) : isUnsigned (Nat.toDigits 10 n) = true := by
  rw [← List.append_nil (Nat.toDigits 10 n)]
  refine isUnsigned_append _ (all_toDigits n) ?_ rfl
  rcases Nat.eq_zero_or_pos n with rfl | positive
  · rfl
  · exact isWhole_of_head? Nat.toDigits_ne_nil
      (Text.head?_digits_ne_zero (by decide) n (by decide) positive)

theorem isNumber_int (n : Int) : isNumber (toString n).toList = true := by
  cases n with
  | ofNat n =>
    show isNumber (Nat.repr n).toList = true
    rw [Nat.toList_repr]
    exact isNumber_of_isUnsigned (isUnsigned_toDigits n)
  | negSucc n =>
    show isNumber ("-" ++ Nat.repr (n + 1)).toList = true
    rw [String.toList_append, Nat.toList_repr]
    exact isUnsigned_toDigits (n + 1)

/-! ## Floating-point numbers -/

open Decimal

section

variable (d : Digits)

theorem all_paddedDigits : (paddedDigits d.count d.value).all Char.isDigit = true := by
  simp [paddedDigits, all_toDigits]

theorem paddedDigits_ne_nil : paddedDigits d.count d.value ≠ [] := by
  simp [paddedDigits, Nat.toDigits_ne_nil]

theorem isUnsigned_scientific : isUnsigned (scientific ['+'] d) = true := by
  have digits := all_paddedDigits d
  have exponent : isExponent ('e' :: (if d.exponent < 0 then
      '-' :: Nat.toDigits 10 (-d.exponent).toNat
    else ['+'] ++ Nat.toDigits 10 d.exponent.toNat)) = true := by
    split <;> simp [isExponent, all_toDigits, Nat.toDigits_ne_nil]
  obtain ⟨first, more, same⟩ := List.exists_cons_of_ne_nil (paddedDigits_ne_nil d)
  rw [same, List.all_cons, Bool.and_eq_true] at digits
  have single : isWhole [first] = true := by
    unfold isWhole
    split <;> simp_all
  have run : [first].all Char.isDigit = true := by simp [digits.1]
  unfold scientific
  dsimp only
  rw [same, List.append_assoc]
  cases more with
  | nil => exact isUnsigned_append [first] run single (isTail_of_isExponent exponent)
  | cons second more =>
    have tail := isTail_fraction (List.cons_ne_nil second more) digits.2 exponent
    exact isUnsigned_append [first] run single tail

end

/-- Digits without zeros in front are not filled up. -/
theorem head?_paddedDigits {d : Digits} (leads : d.Leads) :
    (paddedDigits d.count d.value).head? ≠ some '0' := by
  have full : d.count ≤ (Nat.toDigits 10 d.value).length := by
    refine Nat.le_of_not_lt fun short => ?_
    have some_digits := Nat.length_toDigits_pos (b := 10) (n := d.value)
    have small := (Nat.length_toDigits_le_iff (n := d.value) (k := d.count - 1) (b := 10)
      (by decide) (by omega)).1 (by omega)
    exact Nat.not_lt.2 leads.2 small
  have positive : 0 < d.value := Nat.lt_of_lt_of_le (Nat.pow_pos (by decide)) leads.2
  rw [paddedDigits, Nat.sub_eq_zero_of_le full]
  exact Text.head?_digits_ne_zero (by decide) d.value (by decide) positive

theorem isUnsigned_positional {d : Digits} (leads : d.Leads) :
    isUnsigned (positional d) = true := by
  have digits := all_paddedDigits d
  unfold positional
  dsimp only
  rw [List.append_assoc]
  split
  · refine isUnsigned_append ['0'] rfl rfl (isTail_digits ?_ ?_)
    · simp [paddedDigits_ne_nil]
    · simp [digits]
  · have led := head?_paddedDigits leads
    obtain ⟨first, more, same⟩ := List.exists_cons_of_ne_nil (paddedDigits_ne_nil d)
    rw [same] at digits led ⊢
    have each := List.all_eq_true.1 digits
    rw [List.append_assoc]
    have front : (List.take (d.exponent.toNat + 1) (first :: more) ++
        List.replicate (d.exponent.toNat + 1 - d.count) '0').all Char.isDigit = true := by
      refine List.all_eq_true.2 fun c present => ?_
      rcases List.mem_append.1 present with taken | filled
      · exact each c (List.mem_of_mem_take taken)
      · rw [(List.mem_replicate.1 filled).2]
        rfl
    refine isUnsigned_append _ front (isWhole_of_head? (List.cons_ne_nil _ _) led)
      (isTail_digits ?_ ?_)
    · split
      · exact List.cons_ne_nil _ _
      · next some_back => simpa using some_back
    · split
      · rfl
      · exact List.all_eq_true.2 fun c present => each c (List.mem_of_mem_drop present)

/-- A finite number is spelled as a number, if a plus sign stands before its exponent. -/
theorem isNumber_render {layout : Layout} (plus : layout.exponentSign = ['+'])
    (format : BinaryFormat) {value : Binary} (finite : value.isFinite = true) :
    isNumber (layout.render format value).toList = true := by
  have signed (negative : Bool) {text : String} (unsigned : isUnsigned text.toList = true) :
      isNumber (Layout.render.signed negative text).toList = true := by
    unfold Layout.render.signed
    cases negative with
    | false => exact isNumber_of_isUnsigned unsigned
    | true =>
      rw [if_pos rfl, String.toList_append]
      exact unsigned
  unfold Layout.render
  split
  · cases finite
  · cases finite
  · exact signed _ (by decide)
  · next negative significand exponent nonzero =>
    refine signed negative ?_
    rw [String.toList_ofList]
    split
    · rcases shortest_leads format layout.tie (Nat.pos_of_ne_zero nonzero) exponent with
        leads | zero
      · exact isUnsigned_positional leads
      · rw [zero]
        decide
    · rw [plus]
      exact isUnsigned_scientific _

theorem wellSpelled_double (bits : UInt64) : (numberDocument (doubleText? bits)).WellSpelled := by
  unfold doubleText?
  dsimp only
  split
  · next finite => exact isNumber_render rfl .double finite
  · trivial

theorem wellSpelled_single (bits : UInt32) : (numberDocument (singleText? bits)).WellSpelled := by
  unfold singleText?
  dsimp only
  split
  · next finite => exact isNumber_render rfl .single finite
  · trivial

end RpcTelemetry.Payload
