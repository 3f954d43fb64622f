import AcmeClient.Proofs.Number.Digits
import AcmeClient.Proofs.Number.Rounding

namespace AcmeClient

variable {coefficient : Nat} {exponent power : Int} {negative : Bool}

theorem scaleFraction_eq (num den : Nat) (power : Int) :
    scaleFraction num den power = (num * 10 ^ power.toNat, den * 10 ^ (-power).toNat) := by
  cases power with
  | ofNat k => simp [scaleFraction]
  | negSucc k => simp [scaleFraction, Int.neg_negSucc]

/-- The two factors of a scaling, of which one is one, stand for its power of ten. -/
theorem pow_toNat_mul {more less : Nat} (same : power + less = more) :
    10 ^ power.toNat * 10 ^ less = 10 ^ (-power).toNat * 10 ^ more := by
  rw [← Nat.pow_add, ← Nat.pow_add]
  congr 1
  omega

namespace Binary64

/-- Zeros at the end of a coefficient change nothing when the exponent is less by as many. -/
theorem ofDecimal_shift (negative : Bool) (coefficient : Nat) (exponent : Int) (count : Nat) :
    ofDecimal negative (coefficient * 10 ^ count) (exponent - count) =
      ofDecimal negative coefficient exponent := by
  by_cases zero : coefficient = 0
  · simp [ofDecimal, zero]
  have tens : 0 < 10 ^ count := Nat.pow_pos (by decide)
  have shifted : coefficient * 10 ^ count ≠ 0 := Nat.mul_ne_zero zero (Nat.ne_of_gt tens)
  have top : ((digits coefficient).length + count : Nat) + (exponent - count) =
      (digits coefficient).length + exponent := by
    omega
  have same : nearest (coefficient * 10 ^ count * 10 ^ (exponent - count).toNat * one)
      (1 * 10 ^ (-(exponent - count)).toNat) =
        nearest (coefficient * 10 ^ exponent.toNat * one) (1 * 10 ^ (-exponent).toNat) := by
    have powers : 10 ^ count * 10 ^ (exponent - count).toNat * 10 ^ (-exponent).toNat =
        10 ^ exponent.toNat * 10 ^ (-(exponent - count)).toNat := by
      simp only [← Nat.pow_add]
      congr 1
      omega
    have positive (k : Nat) : 0 < 1 * 10 ^ k := Nat.mul_pos (by decide) (Nat.pow_pos (by decide))
    apply nearest_congr (positive _) (positive _)
    generalize 10 ^ (exponent - count).toNat = raised at powers ⊢
    generalize 10 ^ (-exponent).toNat = lowered at powers ⊢
    generalize one = steps
    calc coefficient * 10 ^ count * raised * steps * (1 * lowered)
        = coefficient * steps * (10 ^ count * raised * lowered) := by ring
      _ = coefficient * steps * (10 ^ exponent.toNat * 10 ^ (-(exponent - count)).toNat) := by
          rw [powers]
      _ = coefficient * 10 ^ exponent.toNat * steps * (1 * 10 ^ (-(exponent - count)).toNat) := by
          ring
  simp only [ofDecimal, length_digits_mul_pow (Nat.pos_of_ne_zero zero), top, zero, shifted,
    scaleFraction_eq, ofRatio, ofUnits, same]

theorem ofDecimal_finite {magnitude : Fin magnitudeCount} (negative : Bool)
    (read : ofDecimal false coefficient exponent = .finite false magnitude) :
    ofDecimal negative coefficient exponent = .finite negative magnitude := by
  simp only [ofDecimal] at read ⊢
  split at read
  · rename_i small
    rw [if_pos small]
    simp only [zero, finite.injEq, true_and] at read ⊢
    exact read
  · rename_i large
    rw [if_neg large]
    split at read
    · contradiction
    · rename_i bounded
      rw [if_neg bounded]
      simp only [ofRatio, ofUnits] at read ⊢
      split at read
      · rename_i fits
        rw [dif_pos fits]
        simp only [finite.injEq, true_and] at read ⊢
        exact read
      · contradiction

end Binary64

/-- The size of the quotient of two numbers, by the digits of its integer part. -/
theorem exists_size {num den : Nat} (positive : 0 < den) (some : den ≤ num) : ∃ size,
    (digits (num / den)).length = size + 1 ∧ 10 ^ size * den ≤ num ∧ num < 10 ^ (size + 1) * den := by
  obtain ⟨low, high⟩ := digits_bounds (Nat.div_pos some positive)
  obtain ⟨size, length⟩ : ∃ size, (digits (num / den)).length = size + 1 :=
    Nat.exists_eq_succ_of_ne_zero (mt List.length_eq_zero_iff.mp (digits_ne_nil _))
  rw [length] at low high
  refine ⟨size, length, ?_, ?_⟩
  · rwa [Nat.add_sub_cancel, Nat.le_div_iff_mul_le positive] at low
  · rwa [Nat.div_lt_iff_lt_mul positive] at high

namespace Scientific

open Binary64

theorem one_pos : 0 < one := by decide +kernel

theorem exists_leading {units : Nat} (positive : 0 < units) : ∃ size : Nat,
    leadingExponent units = size - 400 ∧ 10 ^ size * one ≤ units * Nat.pow 10 400 ∧
      units * Nat.pow 10 400 < 10 ^ (size + 1) * one := by
  have more : one ≤ Nat.pow 10 400 := by decide +kernel
  obtain ⟨size, length, bounds⟩ :=
    exists_size one_pos (Nat.le_trans more (Nat.le_mul_of_pos_left _ positive))
  refine ⟨size, ?_, bounds⟩
  rw [leadingExponent, length]
  omega

theorem scaled_bounds {units steps size scale : Nat}
    (places : power + (scale + 16 : Nat) = size)
    (low : 10 ^ size * steps ≤ units * Nat.pow 10 scale)
    (high : units * Nat.pow 10 scale < 10 ^ (size + 1) * steps) :
    10 ^ 16 * (steps * 10 ^ power.toNat) ≤ units * 10 ^ (-power).toNat ∧
      units * 10 ^ (-power).toNat < 10 ^ 17 * (steps * 10 ^ power.toNat) := by
  have same := pow_toNat_mul places
  have loweredPos : 0 < 10 ^ (-power).toNat := Nat.pow_pos (by decide)
  have tensPos : 0 < 10 ^ scale := Nat.pow_pos (by decide)
  rw [Nat.pow_add] at same
  rw [Nat.pow_eq] at low high
  generalize 10 ^ power.toNat = raised at same ⊢
  generalize 10 ^ (-power).toNat = lowered at same loweredPos ⊢
  generalize 10 ^ scale = tens at low high same tensPos
  have start : 10 ^ 16 * (steps * raised) * tens = lowered * (10 ^ size * steps) := by
    calc 10 ^ 16 * (steps * raised) * tens = steps * (raised * (tens * 10 ^ 16)) := by ring
      _ = lowered * (10 ^ size * steps) := by
          rw [same]
          ring
  constructor
  · apply Nat.le_of_mul_le_mul_right _ tensPos
    calc 10 ^ 16 * (steps * raised) * tens = lowered * (10 ^ size * steps) := start
      _ ≤ lowered * (units * tens) := Nat.mul_le_mul_left _ low
      _ = units * lowered * tens := by ring
  · apply Nat.lt_of_mul_lt_mul_right (a := tens)
    calc units * lowered * tens = lowered * (units * tens) := by ring
      _ < lowered * (10 ^ (size + 1) * steps) := Nat.mul_lt_mul_of_pos_left high loweredPos
      _ = 10 * (lowered * (10 ^ size * steps)) := by ring
      _ = 10 ^ 17 * (steps * raised) * tens := by
          rw [← start]
          ring

theorem size_bounds {units steps tens size limit lowest highest : Nat} (positive : 0 < units)
    (some : 0 < tens) (fits : units < limit) (low : 10 ^ size * steps ≤ units * tens)
    (high : units * tens < 10 ^ (size + 1) * steps) (small : 10 ^ lowest * steps ≤ tens)
    (large : limit * tens ≤ 10 ^ highest * steps) : lowest ≤ size ∧ size < highest := by
  constructor
  · apply Nat.le_of_not_lt
    intro below
    have power : 10 ^ (size + 1) ≤ 10 ^ lowest := Nat.pow_le_pow_right (by decide) below
    have first := Nat.mul_le_mul_right steps power
    have second : tens ≤ units * tens := Nat.le_mul_of_pos_left _ positive
    omega
  · apply Nat.lt_of_not_le
    intro above
    have power : 10 ^ highest ≤ 10 ^ size := Nat.pow_le_pow_right (by decide) above
    have first := Nat.mul_le_mul_right steps power
    have second : units * tens < limit * tens := Nat.mul_lt_mul_of_pos_right fits some
    omega

theorem roundQuotient_close {num den : Nat} (positive : 0 < den) (long : 10 ^ 16 * den ≤ num)
    (short : num < 10 ^ 17 * den) :
    10 ^ 16 ≤ roundQuotient num den ∧ roundQuotient num den ≤ 10 ^ 17 ∧
      2 ^ 54 * (roundQuotient num den * den) < (2 ^ 54 + 1) * num ∧
      2 ^ 54 * num < 2 ^ 54 * (roundQuotient num den * den) + num := by
  obtain ⟨below, above⟩ := roundQuotient_near num positive
  generalize roundQuotient num den = rounded at below above ⊢
  have least : 2 * 10 ^ 16 * den < (2 * rounded + 2) * den := by
    rw [Nat.add_mul] at below ⊢
    omega
  have most : 2 * rounded * den < (2 * 10 ^ 17 + 1) * den := by
    rw [Nat.add_mul]
    omega
  have first := Nat.lt_of_mul_lt_mul_right least
  have second := Nat.lt_of_mul_lt_mul_right most
  rw [Nat.add_mul] at below
  rw [Nat.mul_assoc] at below above
  refine ⟨by omega, by omega, by omega, by omega⟩

theorem nearest_of_close {magnitude steps raised lowered : Nat} (positive : 0 < lowered)
    (below : 2 ^ 54 * (coefficient * (steps * raised)) < (2 ^ 54 + 1) * (units magnitude * lowered))
    (above : 2 ^ 54 * (units magnitude * lowered) <
      2 ^ 54 * (coefficient * (steps * raised)) + units magnitude * lowered) :
    nearest (coefficient * raised * steps) (1 * lowered) = magnitude := by
  have num : coefficient * raised * steps = coefficient * (steps * raised) := by
    rw [Nat.mul_assoc, Nat.mul_comm steps]
  rw [num, Nat.one_mul]
  apply nearest_eq positive
  · rwa [Nat.mul_comm lowered]
  · rwa [Nat.mul_comm lowered]

theorem ofRatio_of_nearest {num den : Nat} {magnitude : Fin magnitudeCount}
    (close : nearest (num * one) den = magnitude) :
    ofRatio negative num den = .finite negative magnitude := by
  have fits : nearest (num * one) den < magnitudeCount := by
    rw [close]
    exact magnitude.isLt
  have same : (⟨nearest (num * one) den, fits⟩ : Fin magnitudeCount) = magnitude := Fin.ext close
  simp only [ofRatio, ofUnits, dif_pos fits, same]

theorem ofDecimal_of_nearest {magnitude : Fin magnitudeCount} (some : coefficient ≠ 0)
    (low : -330 ≤ (digits coefficient).length + exponent)
    (high : (digits coefficient).length + exponent ≤ 310)
    (close : nearest (coefficient * 10 ^ exponent.toNat * one) (1 * 10 ^ (-exponent).toNat) =
      magnitude) :
    ofDecimal false coefficient exponent = .finite false magnitude := by
  have inRange : ¬ (coefficient = 0 ∨ (digits coefficient).length + exponent < -330) := by omega
  unfold ofDecimal
  rw [if_neg inRange, if_neg (Int.not_lt.mpr high), scaleFraction_eq]
  exact ofRatio_of_nearest close

theorem returns_seventeen {magnitude : Fin magnitudeCount} (positive : 0 < magnitude.val) :
    returns magnitude (lastExponent (units magnitude) 17)
      (roundQuotient (scaleFraction (units magnitude) one
          (-lastExponent (units magnitude) 17)).1
        (scaleFraction (units magnitude) one (-lastExponent (units magnitude) 17)).2) := by
  have some := units_pos positive
  obtain ⟨size, leading, low, high⟩ := exists_leading some
  obtain ⟨least, most⟩ : 69 ≤ size ∧ size < 709 :=
    size_bounds some (by decide +kernel) (units_lt 2045 magnitude.isLt) low high (by decide +kernel)
      (by decide +kernel)
  generalize known : 400 = scale at low high
  have places : lastExponent (units magnitude) 17 + (scale + 16 : Nat) = size := by
    rw [lastExponent, leading]
    omega
  obtain ⟨long, short⟩ := scaled_bounds places low high
  rw [scaleFraction_eq, Int.neg_neg]
  generalize lastExponent (units magnitude) 17 = last at places long short ⊢
  have raisedPos : 0 < one * 10 ^ last.toNat := Nat.mul_pos one_pos (Nat.pow_pos (by decide))
  have loweredPos : 0 < 10 ^ (-last).toNat := Nat.pow_pos (by decide)
  obtain ⟨enough, few, below, above⟩ := roundQuotient_close raisedPos long short
  have close := nearest_of_close loweredPos below above
  change returns magnitude last
    (roundQuotient (units magnitude * 10 ^ (-last).toNat) (one * 10 ^ last.toNat)) = true
  generalize roundQuotient (units magnitude * 10 ^ (-last).toNat) (one * 10 ^ last.toNat) =
    coefficient at enough few close ⊢
  have more : ¬ (digits coefficient).length ≤ 16 := by
    rw [length_digits_le_iff (by decide)]
    omega
  have less : (digits coefficient).length ≤ 18 := by
    rw [length_digits_le_iff (by decide)]
    omega
  rw [returns, beq_iff_eq]
  exact ofDecimal_of_nearest (by omega) (by omega) (by omega) close

variable {magnitude : Fin magnitudeCount} {last : Int} {fraction : Nat × Nat} {x : Scientific}

theorem neighbour?_of_returns
    (returned : returns magnitude last (roundQuotient fraction.1 fraction.2)) :
    neighbour? magnitude last fraction ≠ none := by
  simp only [neighbour?, returned, if_true]
  exact Option.some_ne_none _

theorem exists_of_neighbour? (found : neighbour? magnitude last fraction = some x) :
    ∃ coefficient, x = trim (ofCoefficient coefficient last) ∧
      ofDecimal false coefficient last = .finite false magnitude := by
  simp only [neighbour?] at found
  split at found
  · rename_i returned
    cases found
    exact ⟨_, rfl, by simpa only [returns, beq_iff_eq] using returned⟩
  · obtain ⟨returned, found⟩ := Option.ite_none_right_eq_some.mp found
    cases found
    exact ⟨_, rfl, by simpa only [returns, beq_iff_eq] using returned⟩

theorem exists_shortest (positive : 0 < magnitude.val) :
    ∃ coefficient last, shortest magnitude = trim (ofCoefficient coefficient last) ∧
      ofDecimal false coefficient last = .finite false magnitude := by
  unfold shortest
  cases found : (List.range 17).findSome? fun n => readBack? magnitude (n + 1) with
  | none =>
      rw [List.findSome?_eq_none_iff] at found
      exact absurd (found 16 (by decide)) (neighbour?_of_returns (returns_seventeen positive))
  | some x =>
      obtain ⟨count, _, readBack⟩ := List.exists_of_findSome?_eq_some found
      obtain ⟨coefficient, same, read⟩ := exists_of_neighbour? readBack
      exact ⟨coefficient, _, same, read⟩

/-- The number that a decimal is read as. -/
def toBinary64 (negative : Bool) (x : Scientific) : Binary64 :=
  ofDecimal negative (ofDigits x.significant) (x.exponent - (x.significant.length - 1 : Nat))

theorem toBinary64_ofCoefficient (negative : Bool) (coefficient : Nat) (last : Int) :
    (ofCoefficient coefficient last).toBinary64 negative = ofDecimal negative coefficient last := by
  simp only [toBinary64, ofCoefficient, ofDigits_digits]
  congr 1
  omega

theorem exists_trim (x : Scientific) : ∃ kept count,
    x.significant = kept ++ List.replicate count '0' ∧
      x.trim = ⟨if kept = [] then ['0'] else kept, x.exponent⟩ := by
  have zeros : x.significant.reverse.takeWhile (· == '0') =
      List.replicate (x.significant.reverse.takeWhile (· == '0')).length '0' := by
    rw [List.eq_replicate_iff]
    refine ⟨rfl, fun c member => ?_⟩
    simpa using (List.all_eq_true.mp List.all_takeWhile) c member
  refine ⟨(x.significant.reverse.dropWhile (· == '0')).reverse,
    (x.significant.reverse.takeWhile (· == '0')).length, ?_, ?_⟩
  · rw [← List.reverse_replicate, ← zeros, ← List.reverse_append, List.takeWhile_append_dropWhile,
      List.reverse_reverse]
  · simp only [trim, List.isEmpty_iff]

theorem toBinary64_trim (negative : Bool) (x : Scientific) :
    x.trim.toBinary64 negative = x.toBinary64 negative := by
  obtain ⟨kept, count, whole, trimmed⟩ := exists_trim x
  rw [trimmed, toBinary64, toBinary64, whole]
  by_cases none : kept = []
  · subst kept
    have nothing (exponent : Int) : ofDecimal negative 0 exponent = zero negative := by
      simp [ofDecimal]
    rw [List.nil_append, ofDigits_replicate, nothing]
    exact nothing _
  · have some := List.length_pos_iff.mpr none
    have places : x.exponent - ((kept ++ List.replicate count '0').length - 1 : Nat) =
        x.exponent - (kept.length - 1 : Nat) - count := by
      rw [List.length_append, List.length_replicate]
      omega
    simp only [none, if_false]
    rw [ofDigits_append_replicate, places, ofDecimal_shift]

theorem toBinary64_shortest (negative : Bool) (positive : 0 < magnitude.val) :
    (shortest magnitude).toBinary64 negative = .finite negative magnitude := by
  obtain ⟨coefficient, last, short, read⟩ := exists_shortest positive
  rw [short, toBinary64_trim, toBinary64_ofCoefficient]
  exact ofDecimal_finite negative read

theorem exists_significant (positive : 0 < magnitude.val) :
    ∃ first rest, (shortest magnitude).significant = first :: rest ∧ first ≠ '0' := by
  obtain ⟨coefficient, last, short, read⟩ := exists_shortest positive
  have some : 0 < coefficient := by
    apply Nat.pos_of_ne_zero
    rintro rfl
    simp only [ofDecimal, true_or, if_true, zero, finite.injEq, true_and] at read
    rw [← read] at positive
    exact absurd positive (by decide)
  obtain ⟨first, rest, written, different, -⟩ := exists_digits some
  obtain ⟨kept, count, whole, trimmed⟩ := exists_trim (ofCoefficient coefficient last)
  change digits coefficient = kept ++ List.replicate count '0' at whole
  rw [short, trimmed]
  cases kept with
  | nil =>
      rw [written, List.nil_append] at whole
      exact absurd (List.eq_of_mem_replicate (whole ▸ List.mem_cons_self)) different
  | cons c kept =>
      rw [written, List.cons_append, List.cons.injEq] at whole
      obtain ⟨rfl, -⟩ := whole
      exact ⟨first, kept, rfl, different⟩

end Scientific

end AcmeClient
