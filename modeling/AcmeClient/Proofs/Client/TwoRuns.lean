import AcmeClient.Client.Request
import AcmeClient.Proofs.Agreement
import AcmeClient.Proofs.Client.Request

/-!
Two computations side by side. They are paired if from related worlds they come to results that are
alike, or to the same failure, and leave related worlds again.
-/

namespace AcmeClient

variable {α β γ δ : Type}

namespace Client

variable {before between after : World → World → Prop} {alike : α → β → Prop} {same : γ → δ → Prop}
  {action : Client α} {other : Client β} {next : α → Client γ} {later : β → Client δ}

def Paired (before after : World → World → Prop) (alike : α → β → Prop) (action : Client α)
    (other : Client β) : Prop :=
  ∀ first second, before first second →
    Agree alike (outcome action first).1 (outcome other second).1 ∧
      after (outcome action first).2 (outcome other second).2

/-- Where the first parts fail, what they leave must do. -/
theorem Paired.bind (first : Paired before between alike action other)
    (rest : ∀ value twin, alike value twin → Paired between after same (next value) (later twin))
    (fails : ∀ {left right}, between left right → after left right) :
    Paired before after same (action >>= next) (other >>= later) := by
  intro left right related
  obtain ⟨agree, still⟩ := first left right related
  rw [outcome_bind, outcome_bind]
  cases ran : outcome action left with
  | mk result leftAfter =>
      cases ranToo : outcome other right with
      | mk resultToo rightAfter =>
          rw [ran, ranToo] at agree still
          cases agree with
          | ok values => exact rest _ _ values leftAfter rightAfter still
          | error failure => exact ⟨.error failure, fails still⟩

/-- Where the first parts come to the same. -/
theorem Paired.follow {other : Client α} {later : α → Client δ}
    (first : Paired before before Eq action other)
    (rest : ∀ value, Paired before before same (next value) (later value)) :
    Paired before before same (action >>= next) (other >>= later) := by
  refine first.bind ?_ id
  rintro value _ rfl
  exact rest value

/-- Less may be said of the worlds that are left. -/
theorem Paired.mono {weaker : World → World → Prop} (paired : Paired before after alike action other)
    (implies : ∀ {left right}, after left right → weaker left right) :
    Paired before weaker alike action other := fun left right related =>
  let ⟨agree, still⟩ := paired left right related
  ⟨agree, implies still⟩

theorem paired_pure {value : α} {twin : β} (values : alike value twin) :
    Paired before before alike (pure value) (pure twin) := fun _ _ related => ⟨.ok values, related⟩

theorem paired_throw (failure : Failure) :
    Paired before before alike (throw failure) (throw failure) :=
  fun _ _ related => ⟨.error failure, related⟩

theorem paired_ofExcept {result : Except Failure α} {twin : Except Failure β}
    (results : Agree alike result twin) :
    Paired before before alike (ofExcept result) (ofExcept twin) := by
  intro left right related
  rw [outcome_ofExcept, outcome_ofExcept]
  exact ⟨results, related⟩

theorem paired_ofExcept_self (result : Except Failure α) :
    Paired before before Eq (ofExcept result) (ofExcept result) := paired_ofExcept (.of_eq rfl)

/-- A relation that one line more in both logs does not disturb. -/
def Tells (related : World → World → Prop) : Prop :=
  ∀ {left right}, related left right →
    ∀ level logger message, related (left.told level logger message) (right.told level logger message)

theorem paired_debug (tells : Tells before) (logger message : String) :
    Paired before before Eq (debug logger message) (debug logger message) :=
  fun _ _ related => ⟨.ok rfl, tells related _ _ _⟩

theorem paired_info (tells : Tells before) (logger message : String) :
    Paired before before Eq (info logger message) (info logger message) :=
  fun _ _ related => ⟨.ok rfl, tells related _ _ _⟩

theorem paired_readEntry {key : Storage.Key}
    (reads : ∀ {left right}, before left right → left.storage.get key = right.storage.get key) :
    Paired before before Eq (readEntry key) (readEntry key) := by
  intro left right related
  rw [outcome_readEntry, outcome_readEntry]
  exact ⟨.of_eq (reads related), related⟩

theorem paired_generateKey {keys : P256.PrivateKey → P256.PrivateKey → Prop}
    (generates : ∀ {left right}, before left right →
      keys (left.keySource left.generated) (right.keySource right.generated) ∧
        after { left with generated := left.generated + 1 }
          { right with generated := right.generated + 1 }) :
    Paired before after keys generateKey generateKey := by
  intro left right related
  obtain ⟨values, still⟩ := generates related
  exact ⟨.ok values, still⟩

/-- Two values that are stored alike under one key. -/
theorem paired_writeEntry {key : Storage.Key} {value twin : Bytes} (tells : Tells after)
    (stores : ∀ {left right}, before left right →
      let stored := left.storage.put key value
      let storedToo := right.storage.put key twin
      stored.2 = storedToo.2 ∧ stored.1.keepsFiles = storedToo.1.keepsFiles ∧
        after { left with storage := stored.1 } { right with storage := storedToo.1 }) :
    Paired before after Eq (writeEntry key value) (writeEntry key twin) := by
  intro left right related
  obtain ⟨results, files, still⟩ := stores related
  simp only [writeEntry, outcome_bind, outcome_get, outcome_set, ← results, ← files]
  cases (left.storage.put key value).2 with
  | error failure => exact ⟨.error failure, still⟩
  | ok _ =>
      dsimp only
      split
      · exact ⟨.ok rfl, tells still _ _ _⟩
      · exact ⟨.ok rfl, still⟩

end Client

end AcmeClient
