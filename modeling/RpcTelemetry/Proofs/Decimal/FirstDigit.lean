import Mathlib.Algebra.Order.Field.Power
import Mathlib.Tactic.Positivity
import Mathlib.Tactic.Ring
import RpcTelemetry.Decimal.Shortest

/-!
# The first digit of the shortest decimal

The search for the shortest decimal starts at the power of ten of the first digit of a number. A
decimal of so many digits that is found there has no zero in front, since the number itself has
none: its digits are the number cut off at a place, or one more.

Result: `shortest_leads`. Quotients are compared as rational numbers.
-/

namespace RpcTelemetry.Decimal

theorem lt_pow_digitCount (n : Nat) : n < 10 ^ digitCount n := by
  fun_induction digitCount n with
  | case1 => decide
  | case2 n positive ih =>
    rw [Nat.pow_succ]
    omega

theorem pow_digitCount_le {n : Nat} (positive : 0 < n) : 10 ^ digitCount n ≤ 10 * n := by
  fun_induction digitCount n with
  | case1 => cases positive
  | case2 n _ ih =>
    rw [Nat.pow_succ]
    rcases Nat.eq_zero_or_pos (n / 10) with single | several
    · rw [single, digitCount, if_pos rfl]
      omega
    · have := ih several
      omega

section

variable {base n : Nat} (some_base : 0 < base) (e : Int)

include some_base

theorem scaled_fst_pos (positive : 0 < n) : 0 < (scaled base n e).1 := by
  unfold scaled
  split
  · exact Nat.mul_pos positive (Nat.pow_pos some_base)
  · exact positive

theorem scaled_snd_pos : 0 < (scaled base n e).2 := by
  unfold scaled
  split
  · exact Nat.one_pos
  · exact Nat.pow_pos some_base

end

/-- The quotient is the scaled number. -/
theorem scaled_ratio (base n : Nat) (e : Int) :
    ((scaled base n e).1 : ℚ) / (scaled base n e).2 = n * (base : ℚ) ^ e := by
  unfold scaled
  split
  · next up =>
    obtain ⟨k, rfl⟩ := Int.eq_ofNat_of_zero_le up
    simp
  · next down =>
    obtain ⟨k, rfl⟩ : ∃ k : Nat, e = -k := ⟨(-e).toNat, by omega⟩
    simp [div_eq_mul_inv]

/-- A power of ten as a quotient, compared with another quotient. -/
theorem scaled_le_iff {num den : Nat} (some_den : 0 < den) (count : Nat) (e : Int) :
    count * ((scaled 10 1 e).1 * den) ≤ num * (scaled 10 1 e).2 ↔
      count * (10 : ℚ) ^ e ≤ num / den := by
  have bottom : (0 : ℚ) < (scaled 10 1 e).2 := by
    exact_mod_cast scaled_snd_pos (n := 1) (by decide) e
  have power : (10 : ℚ) ^ e = (scaled 10 1 e).1 / (scaled 10 1 e).2 := by
    rw [scaled_ratio]
    norm_num
  have positive : (0 : ℚ) < den := by exact_mod_cast some_den
  rw [power, ← mul_div_assoc, div_le_div_iff₀ bottom positive, mul_assoc]
  exact_mod_cast Iff.rfl

/-- The power of ten of the first digit does not exceed the number. -/
theorem pow_leadingExponent_le {num den : Nat} (some_num : 0 < num) (some_den : 0 < den) :
    (10 : ℚ) ^ leadingExponent num den ≤ num / den := by
  have positive : (0 : ℚ) < den := by exact_mod_cast some_den
  unfold leadingExponent
  dsimp only
  split
  · have above : (10 : ℚ) ^ digitCount num ≤ 10 * num := by
      exact_mod_cast pow_digitCount_le some_num
    have below : (den : ℚ) ≤ 10 ^ digitCount den := by
      exact_mod_cast Nat.le_of_lt (lt_pow_digitCount den)
    rw [zpow_sub_one₀ (by norm_num), zpow_sub₀ (by norm_num), zpow_natCast, zpow_natCast,
      ← div_eq_mul_inv, div_div, div_le_div_iff₀ (by positivity) positive]
    calc (10 : ℚ) ^ digitCount num * den
        ≤ 10 * num * 10 ^ digitCount den := by gcongr
      _ = num * (10 ^ digitCount den * 10) := by ring
  · next within =>
    rw [Nat.not_lt, ← Nat.one_mul ((scaled _ _ _).1 * den), scaled_le_iff some_den] at within
    simpa using within

/-- A decimal without zeros in front. -/
def Digits.Leads (d : Digits) : Prop := 0 < d.count ∧ 10 ^ (d.count - 1) ≤ d.value

namespace Interval

variable {i : Interval} {tie : Tie} {exponent : Int}

/-- A number cut off at a place keeps its first digit. -/
theorem pow_le_cut (some_den : 0 < i.den) (first : (10 : ℚ) ^ exponent ≤ i.middle / i.den)
    {count : Nat} (some_count : 0 < count) :
    10 ^ (count - 1) ≤ i.middle * (scaled 10 1 (exponent - count + 1)).2 /
      (i.den * (scaled 10 1 (exponent - count + 1)).1) := by
  have bottom : 0 < (scaled 10 1 (exponent - count + 1)).1 :=
    scaled_fst_pos (by decide) _ Nat.one_pos
  rw [Nat.le_div_iff_mul_le (Nat.mul_pos some_den bottom), Nat.mul_comm i.den,
    scaled_le_iff some_den]
  have split : exponent = (count - 1 : Nat) + (exponent - count + 1) := by omega
  calc ((10 ^ (count - 1) : Nat) : ℚ) * 10 ^ (exponent - count + 1)
      = 10 ^ exponent := by
        conv_rhs => rw [split, zpow_add₀ (by norm_num), zpow_natCast]
        push_cast
        rfl
    _ ≤ i.middle / i.den := first

theorem nearest?_leads (some_den : 0 < i.den) (first : (10 : ℚ) ^ exponent ≤ i.middle / i.den)
    {count : Nat} (some_count : 0 < count) {d : Digits}
    (found : i.nearest? tie exponent count = some d) : d.Leads := by
  have cut := pow_le_cut some_den first some_count
  unfold nearest? at found
  dsimp only at found
  generalize i.middle * (scaled 10 1 (exponent - count + 1)).2 / _ = lower at found cut
  -- whichever of the two neighbours is taken, and also where it has one digit more
  have leads {n : Nat} (above : lower ≤ n) :
      (if n = Nat.pow 10 count then (⟨Nat.pow 10 (count - 1), count, exponent + 1⟩ : Digits)
        else ⟨n, count, exponent⟩).Leads := by
    split
    · exact ⟨some_count, le_rfl⟩
    · exact ⟨some_count, cut.trans above⟩
  split at found
  · obtain rfl := Option.some.inj found
    refine leads ?_
    split
    · exact Nat.le_succ lower
    · exact le_rfl
  · obtain rfl := Option.some.inj found
    exact leads le_rfl
  · obtain rfl := Option.some.inj found
    exact leads (Nat.le_succ lower)
  · cases found

theorem search_leads (some_den : 0 < i.den) (first : (10 : ℚ) ^ exponent ≤ i.middle / i.den)
    {d : Digits} : ∀ more count, 0 < count → i.search tie exponent more count = some d → d.Leads
  | 0, _, _, found => by cases found
  | more + 1, count, some_count, found => by
    unfold search at found
    split at found
    · next near =>
      obtain rfl := Option.some.inj found
      exact nearest?_leads some_den first some_count near
    · exact search_leads some_den first more (count + 1) (Nat.succ_pos count) found

end Interval

/-- The shortest decimal has no zero in front, unless it is zero. -/
theorem shortest_leads (format : BinaryFormat) (tie : Tie) {significand : Nat}
    (positive : 0 < significand) (exponent : Int) :
    (shortest format tie significand exponent).Leads ∨
      shortest format tie significand exponent = ⟨0, 1, 0⟩ := by
  have some_den : 0 < (Interval.around format significand exponent).den :=
    scaled_snd_pos (by decide) (exponent - 2)
  have some_middle : 0 < (Interval.around format significand exponent).middle :=
    Nat.mul_pos (by omega) (scaled_fst_pos (by decide) (exponent - 2) Nat.one_pos)
  have first := pow_leadingExponent_le some_middle some_den
  unfold shortest
  dsimp only
  cases found : (Interval.around format significand exponent).search tie _ 17 1 with
  | none => exact .inr rfl
  | some d => exact .inl (Interval.search_leads some_den first 17 1 Nat.one_pos found)

end RpcTelemetry.Decimal
