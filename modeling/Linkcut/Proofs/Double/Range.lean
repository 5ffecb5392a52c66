import Linkcut.Double
import Mathlib.Algebra.Order.Field.Power
import Mathlib.Data.Rat.Cast.Order
import Mathlib.Tactic.FieldSimp
import Mathlib.Tactic.Linarith
import Mathlib.Tactic.Positivity
import Mathlib.Tactic.Ring

/-!
The range of binary64 numbers. `Double.ofRatio` rounds to the nearest number; here it is shown from
where on a ratio is infinite (`Double.ofRatio_eq_infinite_iff`), and that one which is not too small
keeps its sign (`Double.isNegative_ofRatio`). Ratios are compared as rational numbers.
-/

set_option autoImplicit false

namespace Linkcut

/-- A ratio is rounded to `k` or past it from half a unit below `k` on, where a tie goes to `k` only
if that is even. -/
theorem le_roundRatio_iff {num den k : Nat} (hd : 0 < den) (hk : 0 < k) :
    k ≤ roundRatio num den ↔
      (2 * k - 1) * den < 2 * num ∨ (2 * k - 1) * den = 2 * num ∧ k % 2 = 0 := by
  have hsplit : 2 * num = 2 * (num / den) * den + 2 * (num % den) := by
    have h := Nat.div_add_mod num den
    have hcomm : 2 * (num / den) * den = 2 * (den * (num / den)) := by ring
    omega
  have hr := Nat.mod_lt num hd
  simp only [roundRatio, Bool.or_eq_true, Bool.and_eq_true, decide_eq_true_eq, beq_iff_eq]
  generalize num / den = q at hsplit ⊢
  generalize num % den = r at hsplit hr ⊢
  rw [hsplit]
  rcases Nat.lt_trichotomy k (q + 1) with hlt | rfl | hgt
  · have hle : (2 * k) * den ≤ 2 * q * den := Nat.mul_le_mul_right den (by omega)
    have hsub : (2 * k - 1) * den + den = 2 * k * den := by
      rw [← Nat.succ_mul]
      congr 1
      omega
    split <;> omega
  · have hsub : (2 * (q + 1) - 1) * den = 2 * q * den + den := by
      rw [← Nat.succ_mul]
      congr 1
    split <;> omega
  · have hle : (2 * q + 3) * den ≤ (2 * k - 1) * den := Nat.mul_le_mul_right den (by omega)
    have hsum : (2 * q + 3) * den = 2 * q * den + 3 * den := by ring
    split <;> omega

namespace Double

theorem scaled_pos (a : Nat) (e : Int) : 0 < (scaled a e).2 := by
  unfold scaled
  split
  · exact Nat.one_pos
  · exact Nat.pow_pos Nat.two_pos

/-- The numerator and the denominator stand for `a · 2^e`. -/
theorem scaled_eq (a : Nat) (e : Int) :
    ((scaled a e).1 : ℚ) = a * 2 ^ e * (scaled a e).2 := by
  unfold scaled
  split
  · rename_i he
    obtain ⟨n, rfl⟩ := Int.eq_ofNat_of_zero_le he
    simp
  · rename_i he
    obtain ⟨n, hn⟩ := Int.eq_ofNat_of_zero_le (show 0 ≤ -e by omega)
    obtain rfl : e = -n := by omega
    simp

/-- Comparing the scaled ratio with a power of two compares the ratio itself with it. -/
theorem scaled_one_le_iff (num den : Nat) (e : Int) :
    (scaled 1 e).1 * den ≤ num * (scaled 1 e).2 ↔ (2 : ℚ) ^ e * den ≤ num := by
  have hq : (0 : ℚ) < (scaled 1 e).2 := by exact_mod_cast scaled_pos 1 e
  have hp := scaled_eq 1 e
  rw [← Nat.cast_le (α := ℚ), Nat.cast_mul, Nat.cast_mul, hp, Nat.cast_one, one_mul, mul_right_comm]
  exact mul_le_mul_iff_left₀ hq

theorem log2Ratio_spec {num den : Nat} (hn : 0 < num) (hd : 0 < den) :
    (2 : ℚ) ^ log2Ratio num den * den ≤ num ∧ (num : ℚ) < 2 ^ (log2Ratio num den + 1) * den := by
  have hnlow : (2 : ℚ) ^ (num.log2 : Int) ≤ num := by
    exact_mod_cast Nat.log2_self_le (by omega)
  have hnhigh : (num : ℚ) < 2 ^ ((num.log2 : Int) + 1) := by
    exact_mod_cast Nat.lt_log2_self (n := num)
  have hdlow : (2 : ℚ) ^ (den.log2 : Int) ≤ den := by
    exact_mod_cast Nat.log2_self_le (by omega)
  have hdhigh : (den : ℚ) < 2 ^ ((den.log2 : Int) + 1) := by
    exact_mod_cast Nat.lt_log2_self (n := den)
  have hsum : ∀ i j : Int, (2 : ℚ) ^ i * 2 ^ j = 2 ^ (i + j) := fun i j =>
    (zpow_add₀ two_ne_zero i j).symm
  simp only [log2Ratio, scaled_one_le_iff]
  split
  · rename_i hle
    refine ⟨hle, hnhigh.trans_le ?_⟩
    calc (2 : ℚ) ^ ((num.log2 : Int) + 1)
        = 2 ^ ((num.log2 : Int) - den.log2 + 1) * 2 ^ (den.log2 : Int) := by
          rw [hsum]; congr 1; omega
      _ ≤ 2 ^ ((num.log2 : Int) - den.log2 + 1) * den := by gcongr
  · rename_i hlt
    refine ⟨?_, by simpa using hlt⟩
    calc (2 : ℚ) ^ ((num.log2 : Int) - den.log2 - 1) * den
        ≤ 2 ^ ((num.log2 : Int) - den.log2 - 1) * 2 ^ ((den.log2 : Int) + 1) := by gcongr
      _ = 2 ^ (num.log2 : Int) := by rw [hsum]; congr 1; omega
      _ ≤ num := hnlow

/-- The mantissa of a ratio at an exponent, before a carry. -/
def mantissaAt (num den : Nat) (e : Int) : Nat :=
  roundRatio (num * (scaled 1 e).2) (den * (scaled 1 e).1)

theorem le_mantissaAt_iff {num den k : Nat} {e : Int} (hd : 0 < den) (hk : 0 < k) :
    k ≤ mantissaAt num den e ↔
      ((2 * k - 1) * (2 ^ e * den) : ℚ) < 2 * num ∨
        ((2 * k - 1) * (2 ^ e * den) : ℚ) = 2 * num ∧ k % 2 = 0 := by
  have hq : (0 : ℚ) < (scaled 1 e).2 := by exact_mod_cast scaled_pos 1 e
  have hp : ((scaled 1 e).1 : ℚ) = 2 ^ e * (scaled 1 e).2 := by simpa using scaled_eq 1 e
  have hpos : 0 < den * (scaled 1 e).1 := by
    have : (0 : ℚ) < (scaled 1 e).1 := by rw [hp]; positivity
    exact Nat.mul_pos hd (by exact_mod_cast this)
  have hleft : (((2 * k - 1) * (den * (scaled 1 e).1) : Nat) : ℚ) =
      (2 * k - 1) * (2 ^ e * den) * (scaled 1 e).2 := by
    push_cast [Nat.cast_sub (show 1 ≤ 2 * k by omega)]
    rw [hp]
    ring
  have hright : ((2 * (num * (scaled 1 e).2) : Nat) : ℚ) = 2 * num * (scaled 1 e).2 := by
    push_cast
    ring
  rw [mantissaAt, le_roundRatio_iff hpos hk, ← Nat.cast_lt (α := ℚ), ← Nat.cast_inj (R := ℚ),
    hleft, hright, mul_lt_mul_iff_left₀ hq, mul_left_inj' hq.ne']

theorem le_mantissaAt_iff_of_even {num den k : Nat} {e : Int} (hd : 0 < den) (hk : 0 < k)
    (heven : k % 2 = 0) :
    k ≤ mantissaAt num den e ↔ ((2 * k - 1) * (2 ^ e * den) : ℚ) ≤ 2 * num := by
  rw [le_mantissaAt_iff hd hk, le_iff_lt_or_eq, and_iff_left heven]

/-- A ratio that is no more than `k` units is rounded to `k` at most. -/
theorem mantissaAt_le {num den k : Nat} {e : Int} (hd : 0 < den)
    (h : (num : ℚ) ≤ k * (2 ^ e * den)) : mantissaAt num den e ≤ k := by
  have hpos : (0 : ℚ) < 2 ^ e * den := by positivity
  refine Nat.le_of_lt_succ (not_le.1 fun hgt => ?_)
  have hover : ((2 * (k + 1 : Nat) - 1) * (2 ^ e * den) : ℚ) ≤ 2 * num :=
    ((le_mantissaAt_iff hd k.succ_pos).1 hgt).elim le_of_lt fun heq => heq.1.le
  push_cast at hover
  linarith

/-- The exponent of the number nearest to a ratio, before a carry. -/
def exponentOf (num den : Nat) : Int := max (log2Ratio num den - 52) minExponent

/-- A mantissa that is rounded up to the next power of two carries into the exponent. -/
theorem ofRatio_eq (negative : Bool) {num : Nat} (hn : 0 < num) (den : Nat) :
    ofRatio negative num den =
      if mantissaAt num den (exponentOf num den) = 2 ^ 53 then
        if maxExponent < exponentOf num den + 1 then .infinite negative
        else .finite negative (2 ^ 52) (exponentOf num den + 1)
      else if maxExponent < exponentOf num den then .infinite negative
        else .finite negative (mantissaAt num den (exponentOf num den)) (exponentOf num den) := by
  let parts : Nat × Int := if mantissaAt num den (exponentOf num den) = 2 ^ 53 then
      (2 ^ 52, exponentOf num den + 1)
    else (mantissaAt num den (exponentOf num den), exponentOf num den)
  have hparts : ofRatio negative num den =
      if maxExponent < parts.2 then infinite negative else finite negative parts.1 parts.2 := by
    rw [ofRatio, if_neg hn.ne']
    rfl
  rw [hparts]
  by_cases hm : mantissaAt num den (exponentOf num den) = 2 ^ 53
  · simp only [parts, if_pos hm]
  · simp only [parts, if_neg hm]

/-- Halfway from the largest number to the power of two that comes after it. -/
def bound : Nat := (2 * 2 ^ 53 - 1) * 2 ^ 970

theorem bound_mul_le_iff (num den : Nat) :
    bound * den ≤ num ↔ (2 * 2 ^ 53 - 1) * (2 ^ maxExponent * den : ℚ) ≤ 2 * num := by
  have hcast : ∀ n : Nat, (((2 * 2 ^ 53 - 1) * 2 ^ n * den : Nat) : ℚ) * 2 =
      (2 * 2 ^ 53 - 1) * (2 ^ ((n : Int) + 1) * den) := by
    intro n
    rw [zpow_add_one₀ two_ne_zero, zpow_natCast]
    push_cast
    ring
  have hbound : ((bound * den : Nat) : ℚ) * 2 = (2 * 2 ^ 53 - 1) * (2 ^ maxExponent * den) :=
    hcast 970
  rw [← hbound, mul_comm (2 : ℚ), mul_le_mul_iff_left₀ two_pos, Nat.cast_le]

/-- A ratio is infinite from the bound on: the tie goes to the even side, which is past the largest
number. -/
theorem ofRatio_eq_infinite_iff (negative : Bool) (num : Nat) {den : Nat} (hd : 0 < den) :
    ofRatio negative num den = .infinite negative ↔ bound * den ≤ num := by
  rcases Nat.eq_zero_or_pos num with rfl | hn
  · have hpos : 0 < bound * den := by unfold bound; positivity
    simp only [ofRatio, if_true, reduceCtorEq, false_iff]
    omega
  obtain ⟨hlow, hhigh⟩ := log2Ratio_spec hn hd
  have hexp : exponentOf num den = max (log2Ratio num den - 52) minExponent := rfl
  have hmin : minExponent < maxExponent := by decide
  rw [ofRatio_eq negative hn, bound_mul_le_iff]
  generalize log2Ratio num den = k at hlow hhigh hexp
  -- everything is measured in units of the last place below the bound
  have hunit : ∀ i : Int, (2 : ℚ) ^ (maxExponent + i) * den = 2 ^ i * (2 ^ maxExponent * den) :=
    fun i => by rw [zpow_add₀ two_ne_zero, mul_comm ((2 : ℚ) ^ maxExponent), mul_assoc]
  have hpos : (0 : ℚ) < 2 ^ maxExponent * den := by positivity
  rcases lt_trichotomy (k - 52) maxExponent with hk | hk | hk
  · have hfits : ¬ maxExponent < exponentOf num den := by omega
    have hcarry : ¬ maxExponent < exponentOf num den + 1 := by omega
    have hle : (2 : ℚ) ^ (k + 1) * den ≤ 2 ^ (maxExponent + 52) * den :=
      mul_le_mul_of_nonneg_right (zpow_le_zpow_right₀ one_le_two (by omega)) den.cast_nonneg
    rw [hunit] at hle
    rw [if_neg hfits, if_neg hcarry]
    refine iff_of_false (by split <;> simp) (not_le.2 ?_)
    norm_num at hle ⊢
    linarith
  · obtain rfl : k = maxExponent + 52 := by omega
    obtain he : exponentOf num den = maxExponent := by omega
    rw [add_assoc, hunit] at hhigh
    have hle : mantissaAt num den maxExponent ≤ 2 ^ 53 :=
      mantissaAt_le hd (by exact_mod_cast hhigh.le)
    have hfull : 2 ^ 53 ≤ mantissaAt num den maxExponent ↔
        (2 * 2 ^ 53 - 1) * (2 ^ maxExponent * den : ℚ) ≤ 2 * num := by
      exact_mod_cast le_mantissaAt_iff_of_even (k := 2 ^ 53) hd (by decide) (by decide)
    rw [he, ← hfull]
    simp only [lt_add_one, lt_irrefl, if_true, if_false]
    split
    · rename_i hm
      simp [hm]
    · rename_i hm
      exact iff_of_false (by simp) fun hge => hm (le_antisymm hle hge)
  · have hover : maxExponent < exponentOf num den := by omega
    have hcarry : maxExponent < exponentOf num den + 1 := by omega
    have hle : (2 : ℚ) ^ (maxExponent + 53) * den ≤ 2 ^ k * den :=
      mul_le_mul_of_nonneg_right (zpow_le_zpow_right₀ one_le_two (by omega)) den.cast_nonneg
    rw [hunit] at hle
    rw [if_pos hover, if_pos hcarry, ite_self]
    refine iff_of_true rfl ?_
    norm_num at hle ⊢
    linarith

/-- A positive ratio keeps its sign, if it is not less than the least number. -/
theorem isNegative_ofRatio (negative : Bool) {num den : Nat} (hn : 0 < num) (hd : 0 < den)
    (hleast : (2 ^ minExponent * den : ℚ) ≤ num) :
    (ofRatio negative num den).isNegative = negative := by
  have hnum : (0 : ℚ) < num := by exact_mod_cast hn
  have hpos : 1 ≤ mantissaAt num den (exponentOf num den) := by
    refine (le_mantissaAt_iff hd one_pos).2 (.inl ?_)
    have hle : (2 ^ exponentOf num den * den : ℚ) ≤ num := by
      rcases max_choice (log2Ratio num den - 52) minExponent with he | he
      · have hlog := (log2Ratio_spec hn hd).1
        refine le_trans (mul_le_mul_of_nonneg_right ?_ den.cast_nonneg) hlog
        exact zpow_le_zpow_right₀ one_le_two (he.le.trans (by omega))
      · rw [exponentOf, he]
        exact hleast
    push_cast
    linarith
  rw [ofRatio_eq negative hn]
  split
  · split <;> simp [isNegative]
  · split
    · rfl
    · simp [isNegative, Nat.one_le_iff_ne_zero.1 hpos]

theorem ofRatio_cases (negative : Bool) (num den : Nat) :
    ofRatio negative num den = .infinite negative ∨
      ∃ m e, ofRatio negative num den = .finite negative m e := by
  rcases Nat.eq_zero_or_pos num with rfl | hn
  · exact .inr ⟨0, minExponent, rfl⟩
  · rw [ofRatio_eq negative hn]
    split
    · split
      · exact .inl rfl
      · exact .inr ⟨_, _, rfl⟩
    · split
      · exact .inl rfl
      · exact .inr ⟨_, _, rfl⟩

theorem quotient?_eq_none_iff (n : Int) {den : Nat} (hd : 0 < den) :
    quotient? n den = none ↔ bound * den ≤ n.natAbs := by
  rw [← ofRatio_eq_infinite_iff (decide (n < 0)) n.natAbs hd, quotient?]
  rcases ofRatio_cases (decide (n < 0)) n.natAbs den with h | ⟨m, e, h⟩
  · simp [h]
  · simp [h]

theorem ofInt?_eq_none_iff (n : Int) : ofInt? n = none ↔ bound ≤ n.natAbs := by
  have h := quotient?_eq_none_iff n Nat.one_pos
  rwa [Nat.mul_one] at h

/-- A quotient has the sign of its integer. -/
theorem isNegative_of_quotient? {n : Int} {den : Nat} {x : Double} (hd : 0 < den)
    (hleast : (2 ^ minExponent * den : ℚ) ≤ 1) (h : quotient? n den = some x) :
    x.isNegative = decide (n < 0) := by
  have hx : x = ofRatio (decide (n < 0)) n.natAbs den := by
    rw [quotient?] at h
    rcases ofRatio_cases (decide (n < 0)) n.natAbs den with hr | ⟨m, e, hr⟩
    · simp [hr] at h
    · simpa [hr] using h.symm
  rw [hx]
  rcases Nat.eq_zero_or_pos n.natAbs with hz | hp
  · obtain rfl := Int.natAbs_eq_zero.1 hz
    rfl
  · have hone : (1 : ℚ) ≤ n.natAbs := by exact_mod_cast hp
    exact isNegative_ofRatio _ hp hd (hleast.trans hone)

end Double
end Linkcut
