import AcmeClient.Proofs.Number.Shortest
import AcmeClient.Proofs.Problem

namespace AcmeClient

variable {members : List (String × Json)} {member default : String} {value : Json}

theorem signedDigits_ne_nil (i : Int) : signedDigits i ≠ [] := by
  unfold signedDigits
  split
  · exact List.cons_ne_nil _ _
  · exact digits_ne_nil _

theorem Scientific.text_ne_nil {x : Scientific} (some : x.significant ≠ []) : x.text ≠ [] := by
  obtain ⟨first, rest, starts⟩ := List.exists_cons_of_ne_nil some
  unfold text
  split
  · rw [exponential, starts]
    cases rest <;> exact List.cons_ne_nil _ _
  · exact List.append_ne_nil_of_right_ne_nil _ (List.cons_ne_nil _ _)

theorem Binary64.text_ne_nil (x : Binary64) : x.text ≠ [] := by
  cases x with
  | nan => decide
  | infinite negative => cases negative <;> decide
  | finite negative magnitude =>
      apply List.append_ne_nil_of_right_ne_nil
      split
      · decide
      · rename_i nonzero
        obtain ⟨first, rest, starts, -⟩ := Scientific.exists_significant (Nat.pos_of_ne_zero nonzero)
        exact Scientific.text_ne_nil (starts ▸ List.cons_ne_nil _ _)

namespace Json

/-- Values are shown as some text, whatever they are. -/
theorem display_ne_empty (value : Json) : value.display ≠ "" := by
  rw [display, Ne, String.ofList_eq_empty_iff]
  cases value with
  | null => decide
  | bool b => cases b <;> decide
  | int i => exact signedDigits_ne_nil i
  | float x => exact x.text_ne_nil
  | str s => simp [Datum.ofJson, Datum.display, Text.quoted]
  | arr items => simp [Datum.ofJson, Datum.display]
  | obj members => simp [Datum.ofJson, Datum.display]

theorem asText_ne_empty (truthy : value.isTruthy) : value.asText ≠ "" := by
  cases value with
  | str s => simpa [isTruthy, asText] using truthy
  | _ => exact display_ne_empty _

end Json

namespace Problem

variable {p : Problem} {body : Json} {status : Int}

theorem memberText_ne_empty (nonempty : default ≠ "") : memberText member default members ≠ "" := by
  simp only [memberText]
  split
  · rename_i truthy
    exact Json.asText_ne_empty truthy
  · exact nonempty

theorem memberText_of_find? {s : String} (found : Assoc.find? member members = some (.str s))
    (nonempty : s ≠ "") : memberText member default members = s := by
  simp [memberText, found, Json.isTruthy, Json.asText, nonempty]

theorem orEmptyList_orEmptyList (value : Json) : orEmptyList (orEmptyList value) = orEmptyList value := by
  by_cases truthy : value.isTruthy <;> simp [orEmptyList, truthy]

/-- A problem with all that bodies may leave out. -/
structure IsNormal (p : Problem) : Prop where
  kind : p.kind ≠ ""
  detail : p.detail ≠ ""
  subproblems : orEmptyList p.subproblems = p.subproblems

theorem isNormal_ofBody (body : Json) (status : Int) : (ofBody body status).IsNormal := by
  have numbered : s!"HTTP {status}" ≠ "" := by simp [toString]
  have unnamed : ProblemKind.unnamed ≠ "" := by decide
  cases body with
  | obj members =>
      exact ⟨memberText_ne_empty unnamed, memberText_ne_empty numbered, orEmptyList_orEmptyList _⟩
  | _ => exact ⟨unnamed, numbered, rfl⟩

theorem status_ofBody (body : Json) (status : Int) : (ofBody body status).status = status := by
  cases body <;> rfl

/-- The document of a problem describes it: subproblems that are left out are read as none. -/
theorem IsNormal.ofBody_toJson (normal : p.IsNormal) : ofBody p.toJson p.status = p := by
  obtain ⟨kind, detail, status, subproblems⟩ := p
  obtain ⟨named, explained, listed⟩ := normal
  simp only [orEmptyList] at named explained listed
  by_cases some : subproblems.isTruthy
  · simp only [toJson, some, if_true, ofBody, mk.injEq, true_and]
    refine ⟨memberText_of_find? rfl named, memberText_of_find? rfl explained, ?_⟩
    exact if_pos some
  · rw [if_neg some] at listed
    subst listed
    simp only [toJson, Json.isTruthy, List.isEmpty_nil, Bool.not_true, Bool.false_eq_true, if_false,
      ofBody, mk.injEq, true_and]
    exact ⟨memberText_of_find? rfl named, memberText_of_find? rfl explained, rfl⟩

/-- Exactly the problems in normal form are described by a body. -/
theorem exists_ofBody_iff : (∃ body, ofBody body status = p) ↔ p.IsNormal ∧ p.status = status := by
  constructor
  · rintro ⟨body, rfl⟩
    exact ⟨isNormal_ofBody body status, status_ofBody body status⟩
  · rintro ⟨normal, rfl⟩
    exact ⟨p.toJson, normal.ofBody_toJson⟩

/-- Whatever a body says, the problem that it describes has a kind and a detail that are not empty and
the status of the response, and its document describes the same problem once more. -/
theorem normal_form (body : Json) (status : Int) :
    (ofBody body status).kind ≠ "" ∧ (ofBody body status).detail ≠ "" ∧
      (ofBody body status).status = status ∧
      ofBody (ofBody body status).toJson status = ofBody body status := by
  have normal := isNormal_ofBody body status
  have again := normal.ofBody_toJson
  rw [status_ofBody] at again
  exact ⟨normal.kind, normal.detail, status_ofBody body status, again⟩

/-- A member that is no text is shown once, and then is the text that showed it. -/
example : ofBody (ofBody (.obj [("type", .arr [.null]), ("detail", .int 0), ("status", .int 200)]) 400).toJson
    400 = ⟨"[None]", "HTTP 400", 400, .arr []⟩ := by rfl

end Problem

end AcmeClient
