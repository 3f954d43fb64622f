import AcmeClient.Proofs.Text.Utf8
import AcmeClient.Text.LetterCase
import Mathlib.Data.List.Basic
import Mathlib.Data.Nat.Bitwise

namespace AcmeClient.Text

/-- Code points as the bits of one number, so that whether two lists share one is found out at once. -/
def bits : List Nat → Nat
  | [] => 0
  | n :: rest => bits rest ||| 1 <<< n

theorem testBit_bits {codes : List Nat} {n : Nat} : (bits codes).testBit n ↔ n ∈ codes := by
  induction codes with
  | nil => simp [bits]
  | cons m codes ih =>
      rw [bits, Nat.testBit_or, Bool.or_eq_true, ih, Nat.one_shiftLeft, Nat.testBit_two_pow,
        List.mem_cons, decide_eq_true_iff, eq_comm, or_comm]

theorem notMem_of_bits {codes others : List Nat} (apart : bits codes &&& bits others = 0) {n : Nat}
    (member : n ∈ codes) : n ∉ others := by
  intro shared
  have both : (bits codes &&& bits others).testBit n := by
    rw [Nat.testBit_and, testBit_bits.mpr member, testBit_bits.mpr shared, Bool.and_self]
  rw [apart, Nat.zero_testBit] at both
  contradiction

namespace CaseTable

variable {run : Run} {n image : Nat} {c d : Char}

/-- The code points that a run maps. -/
def Run.codes : Run → List Nat
  | (first, last, step, _) => (List.range ((last - first) / step + 1)).map fun k => first + step * k

/-- The code points that a run maps them to. -/
def Run.images : Run → List Nat
  | (first, last, step, image) =>
    (List.range ((last - first) / step + 1)).map fun k => image + step * k

theorem Run.mem_of_image? (maps : run.image? n = some image) :
    n ∈ run.codes ∧ image ∈ run.images := by
  obtain ⟨first, last, step, start⟩ := run
  rw [Run.image?] at maps
  split at maps
  · rename_i within
    obtain ⟨low, high, even⟩ := within
    have whole : step * ((n - first) / step) = n - first := by
      have division := Nat.div_add_mod (n - first) step
      omega
    have counted : (n - first) / step < (last - first) / step + 1 :=
      Nat.lt_succ_of_le (Nat.div_le_div_right (by omega))
    constructor
    · exact List.mem_map.mpr ⟨_, List.mem_range.mpr counted, by omega⟩
    · refine List.mem_map.mpr ⟨_, List.mem_range.mpr counted, ?_⟩
      rw [whole]
      exact Option.some.inj maps
  · contradiction

/-- The code points with a capital form of their own. -/
def lowered : List Nat := upperRuns.flatMap Run.codes ++ upperExpansions.map Prod.fst

/-- The code points in capital forms. -/
def raised : List Nat := upperRuns.flatMap Run.images ++ upperExpansions.flatMap Prod.snd

theorem raised_apart : bits raised &&& bits lowered = 0 := by decide +kernel

theorem raised_plain : ∀ code ∈ raised,
    code.isValidChar ∧ (code < 0x80 → (Char.ofNat code).toUpper = Char.ofNat code) := by
  decide +kernel

theorem lookUp_of_notMem_lowered (absent : c.toNat ∉ lowered) :
    lookUp upperRuns upperExpansions c = [c] := by
  rw [lowered, List.mem_append, not_or] at absent
  have unexpanded : upperExpansions.find? (fun expansion => expansion.1 == c.toNat) = none := by
    refine List.find?_eq_none.mpr fun expansion member same => absent.2 ?_
    exact List.mem_map.mpr ⟨expansion, member, beq_iff_eq.mp same⟩
  have unmapped : upperRuns.findSome? (Run.image? c.toNat) = none := by
    refine List.findSome?_eq_none_iff.mpr fun run member => ?_
    refine Option.eq_none_iff_forall_ne_some.mpr fun image maps => absent.1 ?_
    exact List.mem_flatMap.mpr ⟨run, member, (Run.mem_of_image? maps).1⟩
  rw [lookUp, unexpanded, unmapped]

theorem lookUp_self_or_raised (c : Char) :
    lookUp upperRuns upperExpansions c = [c] ∨
      ∀ d ∈ lookUp upperRuns upperExpansions c, ∃ code ∈ raised, d = Char.ofNat code := by
  unfold lookUp
  split
  · rename_i code image found
    refine .inr fun d member => ?_
    obtain ⟨code', listed, rfl⟩ := List.mem_map.mp member
    exact ⟨code', List.mem_append_right _
      (List.mem_flatMap.mpr ⟨_, List.mem_of_find?_eq_some found, listed⟩), rfl⟩
  · split
    · rename_i image found
      refine .inr fun d member => ⟨image, ?_, List.mem_singleton.mp member⟩
      obtain ⟨run, listed, maps⟩ := List.exists_of_findSome?_eq_some found
      exact List.mem_append_left _ (List.mem_flatMap.mpr ⟨run, listed, (Run.mem_of_image? maps).2⟩)
    · exact .inl rfl

end CaseTable

open CaseTable

theorem upperChar_of_raised {code : Nat} (raised : code ∈ raised) :
    upperChar (Char.ofNat code) = [Char.ofNat code] := by
  obtain ⟨valid, plain⟩ := raised_plain code raised
  have named : (Char.ofNat code).toNat = code := Utf8.toNat_ofNat_of_valid valid
  unfold upperChar
  split
  · rename_i ascii
    rw [plain (named ▸ ascii)]
  · exact lookUp_of_notMem_lowered (named.symm ▸ notMem_of_bits raised_apart raised)

theorem upper_upperChar_ascii :
    ∀ code < 0x80, upper (upperChar (Char.ofNat code)) = upperChar (Char.ofNat code) := by
  decide +kernel

theorem upper_of_settled {text : List Char} (settled : ∀ c ∈ text, upperChar c = [c]) :
    upper text = text := by
  rw [upper, List.flatMap_congr settled, List.flatMap_singleton']

theorem upper_upperChar (c : Char) : upper (upperChar c) = upperChar c := by
  by_cases ascii : c.toNat < 0x80
  · rw [← Char.ofNat_toNat c]
    exact upper_upperChar_ascii c.toNat ascii
  · have looked : upperChar c = lookUp upperRuns upperExpansions c := if_neg ascii
    refine upper_of_settled fun d member => ?_
    obtain same | images := lookUp_self_or_raised c
    · rw [looked, same, List.mem_singleton] at member
      rw [member, looked, same]
    · obtain ⟨code, raised, rfl⟩ := images d (looked ▸ member)
      exact upperChar_of_raised raised

theorem upper_upper (text : List Char) : upper (upper text) = upper text := by
  simp only [upper, List.flatMap_assoc]
  exact List.flatMap_congr fun c _ => upper_upperChar c

theorem upperString_upperString (s : String) : upperString (upperString s) = upperString s := by
  rw [upperString, upperString, String.toList_ofList, upper_upper]

end AcmeClient.Text
