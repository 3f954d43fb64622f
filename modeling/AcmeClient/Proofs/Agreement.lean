namespace AcmeClient

variable {ε α β γ δ : Type}

/-- Both results are failures, and the same one, or both are values that are alike. -/
inductive Agree (alike : α → β → Prop) : Except ε α → Except ε β → Prop
  | ok {value : α} {other : β} : alike value other → Agree alike (.ok value) (.ok other)
  | error (failure : ε) : Agree alike (.error failure) (.error failure)

namespace Agree

variable {alike : α → β → Prop} {same : γ → δ → Prop} {result : Except ε α} {other : Except ε β}

theorem of_eq {twin : Except ε α} (same : result = twin) : Agree Eq result twin := by
  subst same
  cases result with
  | ok value => exact .ok rfl
  | error failure => exact .error failure

theorem eq {twin : Except ε α} (agree : Agree Eq result twin) : result = twin := by
  cases agree with
  | ok same => rw [same]
  | error failure => rfl

theorem cases (agree : Agree alike result other) :
    (∃ failure, result = .error failure ∧ other = .error failure) ∨
      ∃ value twin, result = .ok value ∧ other = .ok twin ∧ alike value twin := by
  cases agree with
  | ok values => exact .inr ⟨_, _, rfl, rfl, values⟩
  | error failure => exact .inl ⟨failure, rfl, rfl⟩

theorem bind {next : α → Except ε γ} {later : β → Except ε δ} (agree : Agree alike result other)
    (rest : ∀ value twin, alike value twin → Agree same (next value) (later twin)) :
    Agree same (result >>= next) (other >>= later) := by
  cases agree with
  | ok values => exact rest _ _ values
  | error failure => exact .error failure

end Agree

end AcmeClient
