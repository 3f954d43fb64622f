import AcmeClient.Text.LetterCase
import Mathlib

/-!
Texts that differ in the case of ASCII letters at most. They have the same small form: not even a capital
sigma that stands beside such a letter tells them apart.
-/

namespace AcmeClient.Text

open CaseTable

variable {s t u : String} {c : Char}

theorem toNat_of_isUpper (capital : c.isUpper) : 65 ≤ c.toNat ∧ c.toNat ≤ 90 := by
  simpa [Char.isUpper, UInt32.le_iff_toNat_le] using capital

/-- What a character and its small form have in common, so that no small form of a text tells them apart. -/
structure SmallAlike (c : Char) : Prop where
  lowerChar : lowerChar c.toLower = lowerChar c
  cased : inRanges cased c.toLower = inRanges cased c
  ignorable : inRanges ignorable c.toLower = inRanges ignorable c
  sigma : c.toLower = capitalSigma ↔ c = capitalSigma

theorem smallAlike_capital : ∀ number < 26, let c := Char.ofNat (65 + number)
    lowerChar c.toLower = lowerChar c ∧ inRanges cased c.toLower = inRanges cased c ∧
      inRanges ignorable c.toLower = inRanges ignorable c ∧
      (c.toLower = capitalSigma ↔ c = capitalSigma) := by
  decide +kernel

theorem smallAlike (c : Char) : SmallAlike c := by
  by_cases capital : c.isUpper
  · obtain ⟨low, high⟩ := toNat_of_isUpper capital
    obtain ⟨number, below, rfl⟩ : ∃ number < 26, Char.ofNat (65 + number) = c :=
      ⟨c.toNat - 65, by omega, by rw [Nat.add_sub_of_le low, Char.ofNat_toNat]⟩
    obtain ⟨lowerChar, cased, ignorable, sigma⟩ := smallAlike_capital number below
    exact ⟨lowerChar, cased, ignorable, sigma⟩
  · constructor <;> rw [Char.toLower_eq_of_not_isUpper capital]

theorem meetsLetter_map_toLower (text : List Char) :
    meetsLetter (text.map Char.toLower) = meetsLetter text := by
  have skipped : inRanges ignorable ∘ Char.toLower = inRanges ignorable :=
    funext fun c => (smallAlike c).ignorable
  unfold meetsLetter
  rw [List.dropWhile_map, skipped]
  cases text.dropWhile (inRanges ignorable) with
  | nil => rfl
  | cons c rest => exact (smallAlike c).cased

theorem lowerAfter_map_toLower (before text : List Char) :
    lowerAfter (before.map Char.toLower) (text.map Char.toLower) = lowerAfter before text := by
  induction text generalizing before with
  | nil => rfl
  | cons c rest ih =>
      rw [List.map_cons, lowerAfter, lowerAfter, ← List.map_cons, ih (c :: before)]
      simp only [(smallAlike c).sigma, (smallAlike c).lowerChar, meetsLetter_map_toLower]

/-- Texts that differ in the case of ASCII letters at most. -/
def Recased (s t : String) : Prop := s.toList.map Char.toLower = t.toList.map Char.toLower

/-- Whether a text can be put in another case. -/
def IsLettered (s : String) : Prop := ∃ c ∈ s.toList, c.isAlpha

def small (s : String) : String := String.ofList (s.toList.map Char.toLower)

def capital (s : String) : String := String.ofList (s.toList.map Char.toUpper)

theorem Recased.symm (recased : Recased s t) : Recased t s := Eq.symm recased

theorem Recased.trans (recased : Recased s t) (again : Recased t u) : Recased s u := Eq.trans recased again

theorem Recased.lowerString_eq (recased : Recased s t) : lowerString s = lowerString t := by
  have same : lower s.toList = lower t.toList := by
    calc
      lower s.toList = lower (s.toList.map Char.toLower) := (lowerAfter_map_toLower [] _).symm
      _ = lower (t.toList.map Char.toLower) := by rw [recased]
      _ = lower t.toList := lowerAfter_map_toLower [] _
  rw [lowerString, lowerString, same]

theorem Recased.small_eq (recased : Recased s t) : small s = small t := by
  rw [small, small, recased]

theorem recased_small (s : String) : Recased s (small s) := by
  simp [Recased, small]

theorem recased_capital (s : String) : Recased s (capital s) := by
  simp [Recased, capital]

theorem isLettered_iff : IsLettered s ↔ ∃ c ∈ s.toList.map Char.toLower, c.isAlpha := by
  simp [IsLettered]

theorem Recased.isLettered_iff (recased : Recased s t) : IsLettered s ↔ IsLettered t := by
  rw [Text.isLettered_iff, Text.isLettered_iff, recased]

theorem map_toLower_of_not_isLettered (plain : ¬ IsLettered s) : s.toList.map Char.toLower = s.toList := by
  have settled (c : Char) (member : c ∈ s.toList) : c.toLower = c :=
    Char.toLower_eq_of_not_isUpper fun capital => plain ⟨c, member, by simp [Char.isAlpha, capital]⟩
  exact (List.map_congr_left settled).trans (List.map_id _)

/-- A text without letters stands as it is in every case. -/
theorem Recased.eq_of_not_isLettered (recased : Recased s t) (plain : ¬ IsLettered s) : s = t := by
  have same := recased
  rw [Recased, map_toLower_of_not_isLettered plain,
    map_toLower_of_not_isLettered (mt recased.isLettered_iff.mpr plain)] at same
  exact String.toList_inj.mp same

theorem capital_ne_small (lettered : IsLettered s) (t : String) : capital t ≠ small s := by
  obtain ⟨c, member, letter⟩ := lettered
  intro same
  have low : c.toLower ∈ (small s).toList := by
    rw [small, String.toList_ofList]
    exact List.mem_map_of_mem member
  rw [← same, capital, String.toList_ofList] at low
  obtain ⟨d, -, raised⟩ := List.mem_map.mp low
  rw [← Char.isLower_toLower_eq_isAlpha, ← raised, Char.isLower_toUpper_eq_false] at letter
  contradiction

end AcmeClient.Text
