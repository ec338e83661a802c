import IntentSpec.Number.Binary64
import Mathlib.Algebra.Order.Field.Power
import Mathlib.Data.Nat.Cast.Order.Field
import Mathlib.Tactic.FieldSimp
import Mathlib.Tactic.Linarith
import Mathlib.Tactic.NormNum
import Mathlib.Tactic.Ring

/-!
# Where rounding ends

A quotient of natural numbers is rounded to the nearest floating-point number.  The greatest number is
`2 ^ 1024 - 2 ^ 971`, and what lies halfway from it to `2 ^ 1024` or beyond is rounded to infinity.

* `exists_exponent` — the unit in the last place is read off the leading exponent of the quotient.
* `roundQuotient_lt_iff` — where rounding stays below an even number.
* `isFinite_ofRatio_iff` — a quotient is rounded to a number exactly below `overflowBound`.
* `positive_ofRatio` — a quotient that is not less than the least number is not rounded to zero.
-/

namespace IntentSpec

theorem twoTo_eq (n : Nat) : twoTo n = 2 ^ n := rfl

theorem twoTo_add (m n : Nat) : twoTo (m + n) = twoTo m * twoTo n := pow_add 2 m n

namespace Binary64

/-- Halfway from the greatest number to the next power of two. -/
def overflowBound : Nat := twoTo 1024 - twoTo 970

/-! ## Rounding a quotient -/

theorem le_roundQuotient (n d : Nat) : n / d ≤ roundQuotient n d := by
  unfold roundQuotient
  dsimp only
  split
  · exact le_rfl
  · split
    · exact Nat.le_succ _
    · exact Nat.le_add_right _ _

/-- Rounding stays below an even number exactly if the quotient is nearer to what precedes it: a tie
goes up to the even number. -/
theorem roundQuotient_lt_iff {n d k : Nat} (positive : 0 < d) (even : k % 2 = 0) (some : 0 < k) :
    roundQuotient n d < k ↔ 2 * n < d * (2 * k - 1) := by
  have split : d * (n / d) + n % d = n := Nat.div_add_mod n d
  have small : n % d < d := Nat.mod_lt n positive
  unfold roundQuotient
  dsimp only
  generalize n / d = quotient at split
  generalize n % d = rest at split small
  subst split
  -- The quotient is compared with the number before `k`.
  rcases Nat.lt_trichotomy (quotient + 1) k with below | here | above
  · have room : d * (2 * quotient + 3) ≤ d * (2 * k - 1) := Nat.mul_le_mul_left d (by omega)
    refine iff_of_true ?_ ?_
    · split
      · omega
      · split <;> omega
    · calc 2 * (d * quotient + rest) < d * (2 * quotient + 3) := by linarith
        _ ≤ d * (2 * k - 1) := room
  · subst here
    have bound : d * (2 * (quotient + 1) - 1) = 2 * (d * quotient) + d := by
      rw [show 2 * (quotient + 1) - 1 = 2 * quotient + 1 by omega]
      ring
    rw [bound]
    split
    next less => exact iff_of_true (by omega) (by omega)
    next notLess =>
      split
      next more => exact iff_of_false (by omega) (by omega)
      next tie => exact iff_of_false (by omega) (by omega)
  · have room : d * (2 * k - 1) ≤ d * (2 * quotient) := Nat.mul_le_mul_left d (by omega)
    refine iff_of_false ?_ ?_
    · split
      · omega
      · split <;> omega
    · have grows : d * (2 * quotient) = 2 * (d * quotient) := by ring
      omega

/-! ## The exponent of a quotient -/

theorem scaled_le_iff (n d : Nat) (e : Int) :
    d * twoTo e.toNat ≤ n * twoTo (-e).toNat ↔ (d : ℚ) * 2 ^ e ≤ n := by
  rw [twoTo_eq, twoTo_eq]
  obtain ⟨k, rfl | rfl⟩ := e.eq_nat_or_neg
  · simp only [Int.toNat_natCast, Int.toNat_neg_natCast, pow_zero, mul_one, zpow_natCast]
    exact_mod_cast Iff.rfl
  · simp only [Int.toNat_natCast, Int.toNat_neg_natCast, neg_neg, pow_zero, mul_one, zpow_neg,
      zpow_natCast]
    rw [← div_eq_mul_inv, div_le_iff₀ (by positivity)]
    exact_mod_cast Iff.rfl

/-- The unit in the last place of a quotient between two neighbouring powers of two lies 52 places below
the smaller one, but not below the least number. -/
theorem exists_exponent {n d : Nat} (hn : 0 < n) (hd : 0 < d) :
    ∃ e : Int, (d : ℚ) * 2 ^ e ≤ n ∧ (n : ℚ) < d * 2 ^ (e + 1) ∧
      ulpExponent n d = (e + 1022).toNat := by
  have nLow : (2 : ℚ) ^ (n.log2 : Int) ≤ n := by
    exact_mod_cast Nat.log2_self_le hn.ne'
  have nHigh : (n : ℚ) < 2 ^ ((n.log2 : Int) + 1) := by
    exact_mod_cast Nat.lt_log2_self
  have dLow : (2 : ℚ) ^ (d.log2 : Int) ≤ d := by
    exact_mod_cast Nat.log2_self_le hd.ne'
  have dHigh : (d : ℚ) < 2 ^ ((d.log2 : Int) + 1) := by
    exact_mod_cast Nat.lt_log2_self
  have two : (2 : ℚ) ≠ 0 := by norm_num
  unfold ulpExponent
  dsimp only
  simp only [scaled_le_iff, decide_eq_true_eq]
  generalize estimate_eq : (n.log2 : Int) - d.log2 = estimate
  by_cases reached : (d : ℚ) * 2 ^ estimate ≤ n
  · refine ⟨estimate, reached, ?_, by rw [if_pos reached]; congr 1; omega⟩
    calc (n : ℚ) < 2 ^ ((n.log2 : Int) + 1) := nHigh
      _ = 2 ^ (d.log2 : Int) * 2 ^ (estimate + 1) := by rw [← zpow_add₀ two]; congr 1; omega
      _ ≤ d * 2 ^ (estimate + 1) := by gcongr
  · refine ⟨estimate - 1, ?_, ?_, by rw [if_neg reached]; congr 1; omega⟩
    · calc (d : ℚ) * 2 ^ (estimate - 1) ≤ 2 ^ ((d.log2 : Int) + 1) * 2 ^ (estimate - 1) := by gcongr
        _ = 2 ^ (n.log2 : Int) := by rw [← zpow_add₀ two]; congr 1; omega
        _ ≤ n := nLow
    · rw [sub_add_cancel]
      exact not_le.mp reached

/-! ## The bits of a magnitude -/

theorem infinityBits_lt : infinityBits < twoTo 63 := by decide

theorem magnitudeBits_ofParts (sign : Bool) {magnitude : Nat} (fits : magnitude ≤ infinityBits) :
    (ofParts sign magnitude).magnitudeBits = magnitude := by
  have room := infinityBits_lt
  have whole : twoTo 63 + twoTo 63 = 2 ^ 64 := by decide
  unfold magnitudeBits ofParts
  have stored : (if sign then twoTo 63 + magnitude else magnitude) < 2 ^ 64 := by
    split <;> omega
  show (UInt64.ofNat _).toNat % twoTo 63 = magnitude
  rw [UInt64.toNat_ofNat_of_lt' stored]
  split
  · rw [Nat.add_mod_left, Nat.mod_eq_of_lt (by omega)]
  · exact Nat.mod_eq_of_lt (by omega)

theorem negative_ofParts {magnitude : Nat} (fits : magnitude ≤ infinityBits) :
    (ofParts false magnitude).negative = false := by
  have room := infinityBits_lt
  have whole : twoTo 63 + twoTo 63 = 2 ^ 64 := by decide
  unfold negative ofParts
  show decide (twoTo 63 ≤ (UInt64.ofNat magnitude).toNat) = false
  rw [UInt64.toNat_ofNat_of_lt' (show magnitude < 2 ^ 64 by omega), decide_eq_false_iff_not]
  omega

/-! ## The significand of a quotient -/

/-- A rounded significand has 53 places, unless it is carried to the next power of two. -/
theorem roundQuotient_significand_lt {n d : Nat} {e : Int} (hd : 0 < d)
    (high : (n : ℚ) < d * 2 ^ (e + 1)) :
    roundQuotient (n * twoTo 1074) (d * twoTo (e + 1022).toNat) < 2 ^ 53 + 2 := by
  have two : (2 : ℚ) ≠ 0 := by norm_num
  simp only [twoTo_eq]
  have scaled : n * 2 ^ 1074 < d * 2 ^ (e + 1022).toNat * 2 ^ 53 := by
    have reach : (n : ℚ) * 2 ^ (1074 : Int) < d * 2 ^ ((e + 1022).toNat : Int) * 2 ^ (53 : Int) :=
      calc (n : ℚ) * 2 ^ (1074 : Int) < d * 2 ^ (e + 1) * 2 ^ (1074 : Int) := by gcongr
        _ = d * 2 ^ (e + 1075) := by rw [mul_assoc, ← zpow_add₀ two]; congr 2; omega
        _ ≤ d * 2 ^ (((e + 1022).toNat : Int) + 53) := by
          refine mul_le_mul_of_nonneg_left (zpow_le_zpow_right₀ (by norm_num) ?_) (by positivity)
          omega
        _ = d * 2 ^ ((e + 1022).toNat : Int) * 2 ^ (53 : Int) := by
          rw [zpow_add₀ two, mul_assoc]
    exact_mod_cast reach
  rw [roundQuotient_lt_iff (by positivity) (by decide) (by omega)]
  calc 2 * (n * 2 ^ 1074) < d * 2 ^ (e + 1022).toNat * (2 * 2 ^ 53) := by omega
    _ ≤ d * 2 ^ (e + 1022).toNat * (2 * (2 ^ 53 + 2) - 1) := Nat.mul_le_mul_left _ (by omega)

/-- Above the least exponent a rounded significand has at least 53 places. -/
theorem le_roundQuotient_significand {n d : Nat} {e : Int} (hd : 0 < d) (normal : -1022 ≤ e)
    (low : (d : ℚ) * 2 ^ e ≤ n) :
    2 ^ 52 ≤ roundQuotient (n * twoTo 1074) (d * twoTo (e + 1022).toNat) := by
  have two : (2 : ℚ) ≠ 0 := by norm_num
  simp only [twoTo_eq]
  have scaled : 2 ^ 52 * (d * 2 ^ (e + 1022).toNat) ≤ n * 2 ^ 1074 := by
    have reach : (2 : ℚ) ^ (52 : Int) * (d * 2 ^ ((e + 1022).toNat : Int)) ≤
        n * 2 ^ (1074 : Int) :=
      calc (2 : ℚ) ^ (52 : Int) * (d * 2 ^ ((e + 1022).toNat : Int))
          = d * 2 ^ e * 2 ^ (1074 : Int) := by
            rw [mul_left_comm, mul_assoc, ← zpow_add₀ two, ← zpow_add₀ two]
            congr 2
            omega
        _ ≤ n * 2 ^ (1074 : Int) := by gcongr
    exact_mod_cast reach
  exact le_trans ((Nat.le_div_iff_mul_le (by positivity)).mpr scaled) (le_roundQuotient _ _)

/-! ## Numbers and infinity -/

theorem overflowBound_eq : overflowBound = twoTo 970 * (2 * 2 ^ 53 - 1) := by
  have whole : twoTo 1024 = twoTo 970 * twoTo 54 := twoTo_add 970 54
  have place : 2 * 2 ^ 53 = twoTo 54 := rfl
  unfold overflowBound
  rw [Nat.mul_sub_one, place, ← whole]

theorem overflowBound_lt : overflowBound < twoTo 1024 := by
  have whole : twoTo 1024 = twoTo 970 * twoTo 54 := twoTo_add 970 54
  rw [overflowBound_eq, whole]
  exact Nat.mul_lt_mul_of_pos_left (by decide) (twoTo_pos 970)

theorem le_overflowBound : twoTo 1023 ≤ overflowBound := by
  have half : twoTo 1023 = twoTo 970 * twoTo 53 := twoTo_add 970 53
  rw [overflowBound_eq, half]
  exact Nat.mul_le_mul_left _ (by decide)

/-- The bound on the scale of the greatest significands. -/
theorem overflowBound_scaled :
    twoTo 2045 * (2 * 2 ^ 53 - 1) = overflowBound * (2 * twoTo 1074) := by
  have scale : twoTo 2045 = twoTo 970 * twoTo 1075 := twoTo_add 970 1075
  rw [overflowBound_eq, scale, Nat.mul_comm 2 (twoTo 1074), ← twoTo_succ, Nat.mul_right_comm]

/-- The bits of a rounded quotient, before they are cut off at infinity. -/
def roundedBits (n d : Nat) : Nat :=
  ulpExponent n d * twoTo 52 + roundQuotient (n * twoTo 1074) (d * twoTo (ulpExponent n d))

theorem ofRatio_eq (sign : Bool) {n : Nat} (hn : 0 < n) (d : Nat) :
    ofRatio sign n d = ofParts sign (min infinityBits (roundedBits n d)) :=
  if_neg hn.ne'

theorem roundedBits_lt_iff {n d : Nat} (hn : 0 < n) (hd : 0 < d) :
    roundedBits n d < infinityBits ↔ n < d * overflowBound := by
  obtain ⟨e, low, high, ulp⟩ := exists_exponent hn hd
  have top : infinityBits = 2047 * 2 ^ 52 := by decide
  have place : twoTo 52 = 2 ^ 52 := rfl
  unfold roundedBits
  rw [ulp, top, place]
  rcases lt_trichotomy e 1023 with below | rfl | above
  · -- The quotient is less than `2 ^ 1023`, and even a significand that is carried stays below.
    have carried := roundQuotient_significand_lt hd high
    have exponent : (e + 1022).toNat ≤ 2044 := by omega
    have small : n < d * twoTo 1023 := by
      have reach : (n : ℚ) < d * 2 ^ (1023 : Int) := by
        refine lt_of_lt_of_le high (mul_le_mul_of_nonneg_left ?_ (by positivity))
        exact zpow_le_zpow_right₀ (by norm_num) (by omega)
      rw [twoTo_eq]
      exact_mod_cast reach
    exact iff_of_true (by omega) (lt_of_lt_of_le small (Nat.mul_le_mul_left d le_overflowBound))
  · -- The significand is compared with the next power of two, which ends the exponents.
    have even : roundQuotient (n * twoTo 1074) (d * twoTo 2045) < 2 ^ 53 ↔
        2 * (n * twoTo 1074) < d * twoTo 2045 * (2 * 2 ^ 53 - 1) :=
      roundQuotient_lt_iff (Nat.mul_pos hd (twoTo_pos 2045)) (by decide) (by decide)
    rw [Nat.mul_left_comm, Nat.mul_assoc d, overflowBound_scaled, ← Nat.mul_assoc d,
      Nat.mul_lt_mul_right (Nat.mul_pos (by decide) (twoTo_pos 1074))] at even
    rw [show ((1023 : Int) + 1022).toNat = 2045 from rfl, ← even]
    generalize roundQuotient _ _ = significand
    omega
  · -- The quotient is at least `2 ^ 1024`, and its significand is not too small for that.
    have rounded := le_roundQuotient_significand hd (by omega) low
    have exponent : 2046 ≤ (e + 1022).toNat := by omega
    have large : d * twoTo 1024 ≤ n := by
      have reach : (d : ℚ) * 2 ^ (1024 : Int) ≤ n := by
        refine le_trans (mul_le_mul_of_nonneg_left ?_ (by positivity)) low
        exact zpow_le_zpow_right₀ (by norm_num) (by omega)
      rw [twoTo_eq]
      exact_mod_cast reach
    refine iff_of_false (by omega) (not_lt.mpr ?_)
    exact le_trans (Nat.mul_le_mul_left d overflowBound_lt.le) large

/-- **Where rounding ends.**  A positive quotient is rounded to a number exactly if it is less than
`overflowBound`. -/
theorem isFinite_ofRatio_iff (sign : Bool) {n d : Nat} (hn : 0 < n) (hd : 0 < d) :
    (ofRatio sign n d).isFinite = true ↔ n < d * overflowBound := by
  unfold isFinite
  rw [ofRatio_eq sign hn, magnitudeBits_ofParts sign (Nat.min_le_left _ _), decide_eq_true_eq,
    ← roundedBits_lt_iff hn hd]
  omega

/-- A quotient that is not less than the least positive number is rounded to a positive number. -/
theorem positive_ofRatio {n d : Nat} (hd : 0 < d) (least : d ≤ n * twoTo 1074) :
    (ofRatio false n d).isZero = false ∧ (ofRatio false n d).negative = false := by
  have hn : 0 < n := by
    rcases Nat.eq_zero_or_pos n with rfl | some
    · omega
    · exact some
  have cut : min infinityBits (roundedBits n d) ≤ infinityBits := Nat.min_le_left _ _
  have some : 0 < roundedBits n d := by
    unfold roundedBits
    rcases Nat.eq_zero_or_pos (ulpExponent n d) with zero | some
    · rw [zero]
      have whole : 1 ≤ n * twoTo 1074 / (d * twoTo 0) := by
        rw [Nat.le_div_iff_mul_le (Nat.mul_pos hd (twoTo_pos 0)), one_mul,
          show twoTo 0 = 1 from rfl, mul_one]
        exact least
      have := le_roundQuotient (n * twoTo 1074) (d * twoTo 0)
      omega
    · have := Nat.mul_pos some (twoTo_pos 52)
      omega
  have top : 0 < infinityBits := by decide
  rw [ofRatio_eq false hn]
  refine ⟨?_, negative_ofParts cut⟩
  unfold isZero
  rw [magnitudeBits_ofParts false cut, beq_eq_false_iff_ne]
  omega

end Binary64

end IntentSpec
