import AcmeClient.Bytes
import Mathlib.Data.List.Induction
import Mathlib.Tactic.Lift
import Mathlib.Tactic.Ring

namespace AcmeClient.Bytes

variable {width : Nat} {n : Int} {bytes : Bytes}

theorem toNat_nil : toNat [] = 0 := rfl

theorem toNat_cons (b : UInt8) (rest : Bytes) :
    toNat (b :: rest) = b.toNat * 256 ^ rest.length + toNat rest := by
  induction rest using List.reverseRecOn with
  | nil => simp [toNat]
  | append_singleton rest last ih =>
      rw [← List.cons_append, toNat_append_singleton, ih, toNat_append_singleton, List.length_append,
        List.length_singleton]
      ring

theorem toNat_lt (bytes : Bytes) : bytes.toNat < 256 ^ bytes.length := by
  induction bytes using List.reverseRecOn with
  | nil => decide
  | append_singleton rest last ih =>
      have digit : last.toNat < 256 := last.toNat_lt
      rw [toNat_append_singleton, List.length_append, List.length_singleton, Nat.pow_succ]
      omega

theorem ofNat_toNat (bytes : Bytes) : ofNat bytes.length bytes.toNat = bytes := by
  induction bytes using List.reverseRecOn with
  | nil => rfl
  | append_singleton rest last ih =>
      have digit : last.toNat < 256 := last.toNat_lt
      have others : (256 * toNat rest + last.toNat) / 256 = toNat rest := by omega
      have own : (256 * toNat rest + last.toNat) % 256 = last.toNat := by omega
      rw [toNat_append_singleton, List.length_append, List.length_singleton, ofNat, others, own, ih,
        UInt8.ofNat_toNat]

/-- The bytes of a number, if it is not negative and so many bytes hold it. -/
def ofInt? (width : Nat) (n : Int) : Option Bytes :=
  if 0 ≤ n ∧ n < 256 ^ width then some (ofNat width n.toNat) else none

theorem ofInt?_natCast {n : Nat} (fits : n < 256 ^ width) : ofInt? width n = some (ofNat width n) := by
  rw [ofInt?, if_pos ⟨Int.natCast_nonneg n, by exact_mod_cast fits⟩, Int.toNat_natCast]

theorem ofInt?_eq_some_iff : ofInt? width n = some bytes ↔ bytes.length = width ∧ bytes.toNat = n := by
  constructor
  · intro held
    rw [ofInt?] at held
    split at held
    · next inside =>
      obtain ⟨nonneg, fits⟩ := inside
      lift n to Nat using nonneg
      cases held
      rw [Int.toNat_natCast, length_ofNat, toNat_ofNat (by exact_mod_cast fits)]
      exact ⟨rfl, rfl⟩
    · contradiction
  · rintro ⟨rfl, rfl⟩
    rw [ofInt?_natCast (toNat_lt bytes), ofNat_toNat]

end AcmeClient.Bytes
