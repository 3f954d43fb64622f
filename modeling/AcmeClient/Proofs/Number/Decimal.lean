import AcmeClient.Proofs.Number.Digits

namespace AcmeClient

namespace Scientific

/-- Whether all significant digits are digits. -/
def IsDecimal (x : Scientific) : Prop := ∀ c ∈ x.significant, c.isDigit

theorem isDecimal_ofCoefficient (coefficient : Nat) (last : Int) :
    (ofCoefficient coefficient last).IsDecimal :=
  fun _ member => isDigit_of_mem_digits member

theorem isDecimal_nearestOf (count : Nat) (last : Int) (fraction : Nat × Nat) :
    (nearestOf count last fraction).IsDecimal :=
  fun _ member => isDecimal_ofCoefficient _ _ _ (List.mem_of_mem_take member)

theorem IsDecimal.trim {x : Scientific} (decimal : x.IsDecimal) : x.trim.IsDecimal := by
  intro c member
  simp only [Scientific.trim] at member
  split at member
  · have zero : c = '0' := by simpa using member
    subst c
    decide
  · have kept := List.dropWhile_subset _ (List.mem_reverse.mp member)
    exact decimal c (List.mem_reverse.mp kept)

theorem isDecimal_neighbour {magnitude : Fin magnitudeCount} {last : Int} {fraction : Nat × Nat}
    {x : Scientific} (found : neighbour? magnitude last fraction = some x) : x.IsDecimal := by
  simp only [neighbour?] at found
  generalize (if roundQuotient fraction.1 fraction.2 = fraction.1 / fraction.2 then _ else _) =
    further at found
  split at found
  · cases found
    exact (isDecimal_ofCoefficient _ _).trim
  · obtain ⟨_, found⟩ := Option.ite_none_right_eq_some.mp found
    cases found
    exact (isDecimal_ofCoefficient _ _).trim

theorem isDecimal_shortest (magnitude : Fin magnitudeCount) : (shortest magnitude).IsDecimal := by
  unfold shortest
  cases found : (List.range 17).findSome? fun n => readBack? magnitude (n + 1) with
  | none => exact isDecimal_nearestOf _ _ _
  | some x =>
      obtain ⟨count, _, readBack⟩ := List.exists_of_findSome?_eq_some found
      exact isDecimal_neighbour readBack

/-- The characters of numerals. -/
def marks : List Char := ['e', '.', '+', '-']

theorem mem_exponentText {e : Int} {c : Char} (member : c ∈ exponentText e) :
    c.isDigit ∨ c ∈ marks := by
  simp only [exponentText, List.mem_cons] at member
  rcases member with sign | member
  · right
    subst c
    split <;> decide
  · left
    split at member
    · rcases List.mem_cons.mp member with zero | member
      · subst c
        decide
      · exact isDigit_of_mem_digits member
    · exact isDigit_of_mem_digits member

theorem IsDecimal.mem_exponential {x : Scientific} (decimal : x.IsDecimal) {c : Char}
    (member : c ∈ x.exponential) : c.isDigit ∨ c ∈ marks := by
  obtain ⟨significant, exponent⟩ := x
  match significant, decimal with
  | [], _ => simp [exponential] at member
  | [first], decimal =>
      simp only [exponential, List.mem_cons] at member
      rcases member with rfl | rfl | member
      · exact .inl (decimal _ (by simp))
      · exact .inr (by decide)
      · exact mem_exponentText member
  | first :: second :: rest, decimal =>
      simp only [exponential, List.mem_cons, List.mem_append, List.cons_append] at member
      rcases member with rfl | rfl | rfl | member | rfl | member
      · exact .inl (decimal _ (by simp))
      · exact .inr (by decide)
      · exact .inl (decimal _ (by simp))
      · exact .inl (decimal _ (by simp [member]))
      · exact .inr (by decide)
      · exact mem_exponentText member

theorem IsDecimal.mem_positional {x : Scientific} (decimal : x.IsDecimal) {c : Char}
    (member : c ∈ x.positional.1 ∨ c ∈ x.positional.2) : c.isDigit := by
  obtain ⟨significant, exponent⟩ := x
  have padding {count : Nat} (member : c ∈ List.replicate count '0') : c.isDigit := by
    rw [List.eq_of_mem_replicate member]
    decide
  cases exponent with
  | ofNat e =>
      simp only [positional, List.mem_append] at member
      rcases member with (member | member) | member
      · exact decimal c (List.mem_of_mem_take member)
      · exact padding member
      · exact decimal c (List.mem_of_mem_drop member)
  | negSucc e =>
      simp only [positional, List.mem_append, List.mem_singleton] at member
      rcases member with zero | member | member
      · subst c
        decide
      · exact padding member
      · exact decimal c member

theorem IsDecimal.mem_text {x : Scientific} (decimal : x.IsDecimal) {c : Char}
    (member : c ∈ x.text) : c.isDigit ∨ c ∈ marks := by
  unfold text at member
  split at member
  · exact decimal.mem_exponential member
  · simp only [List.mem_append, List.mem_cons] at member
    rcases member with member | rfl | member
    · exact .inl (decimal.mem_positional (.inl member))
    · exact .inr (by decide)
    · split at member
      · left
        rw [List.mem_singleton.mp member]
        decide
      · exact .inl (decimal.mem_positional (.inr member))

end Scientific

/-- The characters of all texts of numbers beside digits. -/
def Binary64.marks : List Char := Scientific.marks ++ ['n', 'a', 'i', 'f']

theorem Binary64.mem_text {x : Binary64} {c : Char} (member : c ∈ x.text) :
    c.isDigit ∨ c ∈ marks := by
  have signed {negative : Bool} (member : c ∈ sign negative) : c ∈ marks := by
    cases negative
    · contradiction
    · rw [List.mem_singleton.mp member]
      decide
  have written {text : List Char} (listed : text ⊆ marks) (member : c ∈ text) :
      c.isDigit ∨ c ∈ marks := .inr (listed member)
  cases x with
  | nan => exact written (by decide) member
  | infinite negative =>
      rcases List.mem_append.mp member with member | member
      · exact .inr (signed member)
      · exact written (by decide) member
  | finite negative magnitude =>
      rcases List.mem_append.mp member with member | member
      · exact .inr (signed member)
      · split at member
        · have zero : "0.0".toList.all (fun c => c.isDigit || marks.contains c) = true := by decide
          simpa using List.all_eq_true.mp zero c member
        · rcases (Scientific.isDecimal_shortest magnitude).mem_text member with digit | mark
          · exact .inl digit
          · exact .inr (List.mem_append_left _ mark)

end AcmeClient
