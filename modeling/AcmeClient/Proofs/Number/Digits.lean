import AcmeClient.Number.Decimal
import Mathlib.Tactic.Ring

namespace AcmeClient

theorem digits_eq_toDigits (n : Nat) : digits n = Nat.toDigits 10 n := Nat.toList_repr

theorem isDigit_of_mem_digits {n : Nat} {c : Char} (member : c ∈ digits n) : c.isDigit := by
  rw [digits_eq_toDigits] at member
  exact Nat.isDigit_of_mem_toDigits (by decide) (by decide) member

theorem digits_ne_nil (n : Nat) : digits n ≠ [] := by
  rw [digits_eq_toDigits]
  exact Nat.toDigits_ne_nil

@[simp] theorem ofDigits_digits (n : Nat) : ofDigits (digits n) = n := by
  rw [digits_eq_toDigits]
  exact Nat.ofDigitChars_ten_toDigits

theorem length_digits_le_iff {n count : Nat} (positive : 0 < count) :
    (digits n).length ≤ count ↔ n < 10 ^ count := by
  rw [digits_eq_toDigits]
  exact Nat.length_toDigits_le_iff (by decide) positive

theorem digits_bounds {n : Nat} (positive : 0 < n) :
    10 ^ ((digits n).length - 1) ≤ n ∧ n < 10 ^ (digits n).length := by
  have some : 0 < (digits n).length := List.length_pos_iff.mpr (digits_ne_nil n)
  refine ⟨?_, (length_digits_le_iff some).mp (Nat.le_refl _)⟩
  by_cases more : 0 < (digits n).length - 1
  · apply Nat.le_of_not_lt
    intro below
    have := (length_digits_le_iff more).mpr below
    omega
  · have single : (digits n).length - 1 = 0 := by omega
    rw [single, Nat.pow_zero]
    exact positive

theorem digits_mul_ten {n : Nat} (positive : 0 < n) : digits (n * 10) = digits n ++ ['0'] := by
  have joined := Nat.toDigits_append_toDigits (b := 10) (d := 0) (by decide) positive (by decide)
  rw [digits_eq_toDigits, digits_eq_toDigits, Nat.mul_comm]
  exact joined.symm

theorem length_digits_mul_pow {n : Nat} (positive : 0 < n) (count : Nat) :
    (digits (n * 10 ^ count)).length = (digits n).length + count := by
  induction count with
  | zero => rw [Nat.pow_zero, Nat.mul_one, Nat.add_zero]
  | succ count ih =>
      have more : 0 < n * 10 ^ count := Nat.mul_pos positive (Nat.pow_pos (by decide))
      rw [Nat.pow_succ, ← Nat.mul_assoc, digits_mul_ten more, List.length_append, ih]
      rfl

variable {text : List Char}

theorem ofDigits_eq_ofDigitChars (text : List Char) : ofDigits text = Nat.ofDigitChars 10 text 0 := rfl

theorem ofDigits_append (first second : List Char) :
    ofDigits (first ++ second) = 10 ^ second.length * ofDigits first + ofDigits second := by
  rw [ofDigits_eq_ofDigitChars, Nat.ofDigitChars_append, Nat.ofDigitChars_eq_ofDigitChars_zero]
  rfl

@[simp] theorem ofDigits_replicate (count : Nat) : ofDigits (List.replicate count '0') = 0 := by
  rw [ofDigits_eq_ofDigitChars, Nat.ofDigitChars_replicate_zero, Nat.mul_zero]

theorem ofDigits_append_replicate (text : List Char) (count : Nat) :
    ofDigits (text ++ List.replicate count '0') = ofDigits text * 10 ^ count := by
  rw [ofDigits_append, ofDigits_replicate, List.length_replicate, Nat.add_zero, Nat.mul_comm]

theorem ofDigits_replicate_append (count : Nat) (text : List Char) :
    ofDigits (List.replicate count '0' ++ text) = ofDigits text := by
  rw [ofDigits_append, ofDigits_replicate, Nat.mul_zero, Nat.zero_add]

theorem ofDigits_lt (decimal : ∀ c ∈ text, c.isDigit) : ofDigits text < 10 ^ text.length := by
  induction text with
  | nil => decide
  | cons c text ih =>
      rw [List.forall_mem_cons] at decimal
      have later := ih decimal.2
      have digit : c.toNat - 48 ≤ 9 := by
        have below : c.toNat ≤ 57 := (Char.isDigit_iff_toNat.mp decimal.1).2
        omega
      have first : ofDigits [c] = c.toNat - 48 := Nat.zero_add _
      have most : 10 ^ text.length * (c.toNat - 48) ≤ 10 ^ text.length * 9 :=
        Nat.mul_le_mul_left _ digit
      rw [← List.singleton_append, ofDigits_append, first, List.singleton_append, List.length_cons,
        Nat.pow_succ]
      omega

theorem exists_digits {n : Nat} (positive : 0 < n) :
    ∃ first rest, digits n = first :: rest ∧ first ≠ '0' ∧ first.isDigit := by
  obtain ⟨first, rest, written⟩ := List.exists_cons_of_ne_nil (digits_ne_nil n)
  have decimal : ∀ c ∈ first :: rest, c.isDigit := by
    rw [← written]
    exact fun _ => isDigit_of_mem_digits
  refine ⟨first, rest, written, ?_, decimal first List.mem_cons_self⟩
  rintro rfl
  have below := ofDigits_lt fun c member => decimal c (List.mem_cons_of_mem _ member)
  have value : ofDigits rest = n := by
    rw [← ofDigits_digits n, written, ← List.singleton_append, ofDigits_append]
    exact (Nat.zero_add _).symm
  have least := (digits_bounds positive).1
  rw [written, List.length_cons, Nat.add_sub_cancel] at least
  omega

end AcmeClient
