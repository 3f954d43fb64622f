import AcmeClient.Number.Binary64
import Mathlib.Tactic.Ring

namespace AcmeClient

variable {num den factor q : Nat}

theorem roundQuotient_scale (num den : Nat) (positive : 0 < factor) :
    roundQuotient (factor * num) (factor * den) = roundQuotient num den := by
  have double (a b : Nat) : 2 * (factor * a) < factor * b ↔ 2 * a < b := by
    rw [Nat.mul_left_comm]
    exact Nat.mul_lt_mul_left positive
  have doubled (a b : Nat) : factor * b < 2 * (factor * a) ↔ b < 2 * a := by
    rw [Nat.mul_left_comm]
    exact Nat.mul_lt_mul_left positive
  simp only [roundQuotient, Nat.mul_div_mul_left _ _ positive, Nat.mul_mod_mul_left, double, doubled]

theorem roundQuotient_congr {otherNum otherDen : Nat} (positive : 0 < den)
    (otherPositive : 0 < otherDen) (same : num * otherDen = otherNum * den) :
    roundQuotient num den = roundQuotient otherNum otherDen := by
  rw [← roundQuotient_scale num den otherPositive, ← roundQuotient_scale otherNum otherDen positive,
    Nat.mul_comm otherDen num, same, Nat.mul_comm otherNum den, Nat.mul_comm otherDen den]

theorem roundQuotient_near (num : Nat) (positive : 0 < den) :
    2 * num ≤ (2 * roundQuotient num den + 1) * den ∧
      2 * roundQuotient num den * den ≤ 2 * num + den := by
  have whole := Nat.div_add_mod num den
  have below := Nat.mod_lt num positive
  rw [Nat.mul_comm] at whole
  simp only [roundQuotient, Nat.add_mul, Nat.mul_assoc]
  split
  · omega
  · split
    · rw [Nat.add_mul]
      omega
    · obtain even | odd := Nat.mod_two_eq_zero_or_one (num / den)
      · rw [even, Nat.add_zero]
        omega
      · rw [odd, Nat.add_mul]
        omega

theorem roundQuotient_eq (below : 2 * num < (2 * q + 1) * den)
    (above : 2 * q * den < 2 * num + den) : roundQuotient num den = q := by
  have positive : 0 < den := by
    apply Nat.pos_of_ne_zero
    rintro rfl
    omega
  obtain ⟨low, high⟩ := roundQuotient_near num positive
  have notAbove : 2 * roundQuotient num den * den < (2 * q + 2) * den := by
    rw [Nat.add_mul] at below ⊢
    omega
  have notBelow : 2 * q * den < (2 * roundQuotient num den + 2) * den := by
    rw [Nat.add_mul] at low ⊢
    omega
  have first := Nat.lt_of_mul_lt_mul_right notAbove
  have second := Nat.lt_of_mul_lt_mul_right notBelow
  omega

namespace Binary64

theorem nearest_congr {otherNum otherDen : Nat} (positive : 0 < den) (otherPositive : 0 < otherDen)
    (same : num * otherDen = otherNum * den) : nearest num den = nearest otherNum otherDen := by
  have quotient : num / den = otherNum / otherDen := by
    rw [← Nat.mul_div_mul_right num den otherPositive, same, Nat.mul_comm den otherDen,
      Nat.mul_div_mul_right otherNum otherDen positive]
  have scaled (exponent : Nat) :
      roundQuotient num (den * Nat.pow 2 exponent) =
        roundQuotient otherNum (otherDen * Nat.pow 2 exponent) := by
    have power : 0 < Nat.pow 2 exponent := Nat.pow_pos (by decide)
    apply roundQuotient_congr (Nat.mul_pos positive power) (Nat.mul_pos otherPositive power)
    rw [← Nat.mul_assoc, same, Nat.mul_assoc]
  simp only [nearest, quotient, scaled]

theorem exists_significand (magnitude : Nat) : ∃ significand exponent,
    units magnitude = significand * 2 ^ exponent ∧
      magnitude = exponent * 2 ^ 52 + significand ∧ significand < 2 ^ 53 ∧
      (0 < exponent → 2 ^ 52 ≤ significand) := by
  have whole := Nat.div_add_mod magnitude (2 ^ 52)
  have below := Nat.mod_lt magnitude (by decide : 0 < 2 ^ 52)
  by_cases small : magnitude / 2 ^ 52 = 0
  · refine ⟨magnitude, 0, ?_, ?_, ?_, ?_⟩
    · simp only [units, Nat.pow_eq, small, if_true, Nat.pow_zero, Nat.mul_one]
    · omega
    · omega
    · omega
  · refine ⟨2 ^ 52 + magnitude % 2 ^ 52, magnitude / 2 ^ 52 - 1, ?_, ?_, ?_, ?_⟩
    · simp only [units, Nat.pow_eq, small, if_false]
    · omega
    · omega
    · omega

theorem log2_eq {n power : Nat} (low : 2 ^ power ≤ n) (high : n < 2 ^ (power + 1)) :
    Nat.log2 n = power := by
  have positive := Nat.pow_pos (n := power) (by decide : 0 < 2)
  rw [Nat.log2_eq_iff (by omega)]
  exact ⟨low, high⟩

theorem nearest_of_bounds (exponent : Nat) (positive : 0 < den)
    (low : 0 < exponent → den * 2 ^ (52 + exponent) ≤ num) (high : num < den * 2 ^ (53 + exponent)) :
    nearest num den = exponent * 2 ^ 52 + roundQuotient num (den * 2 ^ exponent) := by
  have size : Nat.log2 (num / den) - 52 = exponent := by
    have below : num / den < 2 ^ (53 + exponent) := by
      rw [Nat.div_lt_iff_lt_mul positive, Nat.mul_comm]
      exact high
    by_cases normal : 0 < exponent
    · have above : 2 ^ (52 + exponent) ≤ num / den := by
        rw [Nat.le_div_iff_mul_le positive, Nat.mul_comm]
        exact low normal
      have next : 53 + exponent = 52 + exponent + 1 := by omega
      rw [next] at below
      rw [log2_eq above below, Nat.add_sub_cancel_left]
    · obtain rfl : exponent = 0 := by omega
      by_cases zero : num / den = 0
      · rw [zero]
        rfl
      · have small := (Nat.log2_lt zero).mpr below
        omega
  simp only [nearest, size, Nat.pow_eq]

/-- Whatever differs from a number by less than its 2⁵⁴th part is rounded to this number. -/
theorem nearest_eq {magnitude : Nat} (positive : 0 < den)
    (below : 2 ^ 54 * num < (2 ^ 54 + 1) * (den * units magnitude))
    (above : 2 ^ 54 * (den * units magnitude) < 2 ^ 54 * num + den * units magnitude) :
    nearest num den = magnitude := by
  obtain ⟨q, k, counted, whole, fits, normal⟩ := exists_significand magnitude
  rw [counted] at below above
  have steps : den * (q * 2 ^ k) = q * (den * 2 ^ k) := Nat.mul_left_comm _ _ _
  rw [steps] at below above
  have top : den * 2 ^ (53 + k) = 2 ^ 53 * (den * 2 ^ k) := by
    rw [Nat.pow_add, Nat.mul_left_comm]
  have bottom : den * 2 ^ (52 + k) = 2 ^ 52 * (den * 2 ^ k) := by
    rw [Nat.pow_add, Nat.mul_left_comm]
  have most : q * (den * 2 ^ k) ≤ (2 ^ 53 - 1) * (den * 2 ^ k) := Nat.mul_le_mul_right _ (by omega)
  by_cases low : 0 < k → den * 2 ^ (52 + k) ≤ num
  · rw [nearest_of_bounds k positive low (by omega), whole]
    congr 1
    apply roundQuotient_eq
    · rw [Nat.add_mul, Nat.mul_assoc]
      omega
    · rw [Nat.mul_assoc]
      omega
  · -- Just below a power of two the steps are half as large.
    rw [Classical.not_imp] at low
    obtain ⟨some, low⟩ := low
    obtain ⟨k, rfl⟩ : ∃ before, k = before + 1 := ⟨k - 1, by omega⟩
    have half : den * 2 ^ (k + 1) = 2 * (den * 2 ^ k) := by
      rw [Nat.pow_succ, Nat.mul_comm (2 ^ k) 2, Nat.mul_left_comm]
    have least := normal some
    obtain rfl : q = 2 ^ 52 := by
      apply Nat.le_antisymm _ least
      apply Nat.le_of_not_lt
      intro more
      have further : (2 ^ 52 + 1) * (den * 2 ^ (k + 1)) ≤ q * (den * 2 ^ (k + 1)) :=
        Nat.mul_le_mul_right _ more
      omega
    have lowTop : den * 2 ^ (53 + k) = 2 ^ 53 * (den * 2 ^ k) := by
      rw [Nat.pow_add, Nat.mul_left_comm]
    have lowBottom : den * 2 ^ (52 + k) = 2 ^ 52 * (den * 2 ^ k) := by
      rw [Nat.pow_add, Nat.mul_left_comm]
    rw [nearest_of_bounds k positive (by omega) (by omega), whole]
    have rounded : roundQuotient num (den * 2 ^ k) = 2 ^ 53 := by
      apply roundQuotient_eq <;> omega
    rw [rounded]
    omega

theorem units_lt {magnitude : Nat} (top : Nat) (fits : magnitude < (top + 2) * 2 ^ 52) :
    units magnitude < 2 ^ 53 * 2 ^ top := by
  obtain ⟨q, k, counted, whole, few, normal⟩ := exists_significand magnitude
  have bound : k ≤ top := by
    by_cases some : 0 < k
    · have least := normal some
      omega
    · omega
  rw [counted]
  exact Nat.mul_lt_mul_of_lt_of_le few (Nat.pow_le_pow_right (by decide) bound)
    (Nat.two_pow_pos top)

theorem units_pos {magnitude : Nat} (positive : 0 < magnitude) : 0 < units magnitude := by
  obtain ⟨q, k, counted, whole, -, normal⟩ := exists_significand magnitude
  rw [counted]
  apply Nat.mul_pos _ (Nat.pow_pos (by decide))
  by_cases some : 0 < k
  · have := normal some
    omega
  · omega

end Binary64

end AcmeClient
