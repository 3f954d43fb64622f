import AcmeClient.Proofs.Client.Replies
import AcmeClient.Proofs.Json.Limits
import AcmeClient.Proofs.Problem

namespace AcmeClient

open Json

namespace Response

variable {α : Type} {response : Response} {name : String} {shown : Json → α} {default : α}
  {members : List (String × Json)}

/-- The body is an object that says something under a name. -/
def Tells (response : Response) (name : String) (value : Json) : Prop :=
  ∃ members, Json.read response.body response.room = .ok (.obj members) ∧ Assoc.find? name members = some value ∧
    value.isTruthy

/-- What is taken of a body: what it says under a name, or a default where it says nothing. -/
def Gives (response : Response) (name : String) (shown : Json → α) (default given : α) : Prop :=
  (∃ value, response.Tells name value ∧ given = shown value) ∨
    (¬ ∃ value, response.Tells name value) ∧ given = default

/-- A problem as a response reports it. -/
structure Reports (response : Response) (problem : Problem) : Prop where
  status : problem.status = response.status
  kind : response.Gives "type" Json.asText "about:blank" problem.kind
  detail : response.Gives "detail" Json.asText s!"HTTP {response.status}" problem.detail
  subproblems : response.Gives "subproblems" id (.arr []) problem.subproblems
  badNonce : problem.isBadNonce ↔ ∃ members, Json.read response.body response.room = .ok (.obj members) ∧
    Assoc.find? "type" members = some (.str "urn:ietf:params:acme:error:badNonce")

theorem tells_iff {value : Json} (read : Json.read response.body response.room = .ok (.obj members)) :
    response.Tells name value ↔ Assoc.find? name members = some value ∧ value.isTruthy := by
  simp only [Tells, read, Except.ok.injEq, Json.obj.injEq, exists_eq_left']

/-- In an object a missing member says as little as null does. -/
theorem gives_of_read (read : Json.read response.body response.room = .ok (.obj members)) :
    response.Gives name shown default
      (if ((Assoc.find? name members).getD .null).isTruthy
        then shown ((Assoc.find? name members).getD .null) else default) := by
  simp only [Gives, tells_iff read]
  cases found : Assoc.find? name members with
  | none =>
      rw [Option.getD_none, if_neg (by decide)]
      exact .inr ⟨by simp, rfl⟩
  | some value =>
      rw [Option.getD_some]
      split
      · rename_i truthy
        exact .inl ⟨value, ⟨rfl, truthy⟩, rfl⟩
      · rename_i empty
        refine .inr ⟨?_, rfl⟩
        rintro ⟨other, same, truthy⟩
        cases same
        exact empty truthy

theorem gives_of_no_object (other : ∀ members, Json.read response.body response.room ≠ .ok (.obj members)) :
    response.Gives name shown default default := by
  refine .inr ⟨?_, rfl⟩
  rintro ⟨value, members, read, -⟩
  exact other members read

theorem reports_ofStatus (other : ∀ members, Json.read response.body response.room ≠ .ok (.obj members)) :
    response.Reports (.ofStatus response.status) where
  status := rfl
  kind := gives_of_no_object other
  detail := gives_of_no_object other
  subproblems := gives_of_no_object other
  badNonce := by
    have unnamed : ¬ (Problem.ofBody .null response.status).isBadNonce := by
      rw [Problem.isBadNonce_ofBody_iff]
      simp
    refine iff_of_false unnamed ?_
    rintro ⟨members, read, -⟩
    exact other members read

theorem reports_ofBody {body : Json} (read : Json.read response.body response.room = .ok body) :
    response.Reports (.ofBody body response.status) := by
  by_cases isObject : ∃ members, body = .obj members
  · obtain ⟨members, rfl⟩ := isObject
    refine ⟨rfl, gives_of_read read, gives_of_read read, gives_of_read read, ?_⟩
    rw [Problem.isBadNonce_ofBody_iff, read]
    simp only [Except.ok.injEq]
    rfl
  · have other : ∀ members, Json.read response.body response.room ≠ .ok (.obj members) := by
      intro members same
      rw [read, Except.ok.injEq] at same
      exact isObject ⟨members, same⟩
    have plain : Problem.ofBody body response.status = .ofStatus response.status := by
      cases body with
      | obj members => exact absurd ⟨members, rfl⟩ isObject
      | _ => rfl
    rw [plain]
    exact reports_ofStatus other

/-- Why a response reports no problem although it is no success, and what it comes to instead: an integer
in its body has more digits in a row than are read, or more brackets are opened there than there is room
for. -/
inductive Unreported (response : Response) : Defect → Prop
  | longInteger {count : Nat} {text : List Char} :
      Text.decodeDetected response.body = .ok text → 4300 < count → HasRun count text →
      Json.read response.body response.room = .error (.longInteger count) →
      Unreported response (.longInteger (some count))
  | tooDeep {kind : String} {text : List Char} :
      Text.decodeDetected response.body = .ok text → response.room.IsExceeded text →
      Json.read response.body response.room = .error (.tooDeep kind) →
      Unreported response (.tooDeep kind)

theorem unreported_of_escapes {e : ReadError} {defect : Defect}
    (read : Json.read response.body response.room = .error e) (escapes : e.Escapes defect) :
    response.Unreported defect := by
  cases escapes with
  | longInteger count =>
      obtain ⟨text, decoded, stalls⟩ := (read_eq_error_iff (not_mistaken_longInteger count)).mp read
      exact .longInteger decoded stalls.shows.1 stalls.shows.2 read
  | tooDeep kind =>
      obtain ⟨text, decoded, stalls⟩ := (read_eq_error_iff (not_mistaken_tooDeep kind)).mp read
      exact .tooDeep decoded stalls.shows read

theorem not_reports_of_unreported {problem : Problem} {defect : Defect}
    (unreported : response.Unreported defect) :
    response.check ≠ .error (.fault (.rejected problem)) := by
  intro checked
  unfold check json at checked
  cases unreported with
  | longInteger _ _ _ read | tooDeep _ _ read =>
      rw [read] at checked
      split at checked <;> simp at checked

/-- A refused response comes to the problem that it reports, unless its body is beyond a limit of the
reader. -/
theorem check_refused (declined : response.isOk = false) :
    (∃ problem, response.check = .error (.fault (.rejected problem)) ∧ response.Reports problem) ∨
      ∃ defect, response.Unreported defect ∧ response.check = .error (.defect defect) := by
  cases read : Json.read response.body response.room with
  | ok body =>
      refine .inl ⟨_, ?_, reports_ofBody read⟩
      simp only [check, declined, json, read, Bool.false_eq_true, if_false]
  | error e =>
      have other : ∀ members, Json.read response.body response.room ≠ .ok (.obj members) := by simp [read]
      -- Only a limit of the reader is not taken for a body that says nothing.
      cases e with
      | longInteger count =>
          refine .inr ⟨_, unreported_of_escapes read (.longInteger count), ?_⟩
          simp only [check, declined, json, read, Bool.false_eq_true, if_false]
      | tooDeep kind =>
          refine .inr ⟨_, unreported_of_escapes read (.tooDeep kind), ?_⟩
          simp only [check, declined, json, read, Bool.false_eq_true, if_false]
      | encoding e =>
          refine .inl ⟨_, ?_, reports_ofStatus other⟩
          simp only [check, declined, json, read, Bool.false_eq_true, if_false, Problem.ofBody]
      | malformed what line column position =>
          refine .inl ⟨_, ?_, reports_ofStatus other⟩
          simp only [check, declined, json, read, Bool.false_eq_true, if_false, Problem.ofBody]

theorem isOk_iff : response.isOk ↔ 200 ≤ response.status ∧ response.status ≤ 299 := by
  simp only [isOk, Bool.and_eq_true, decide_eq_true_eq]
  omega

/-- Every response outside the success statuses reports a problem of its status, whatever bytes its body
is, but for those in which an integer has more than 4300 digits or that nest deeper than there is room for. -/
theorem rejection_reported (response : Response) :
    (200 ≤ response.status ∧ response.status ≤ 299 ∧ response.check = .ok response) ∨
    (response.status < 200 ∨ 299 < response.status) ∧
      ((∃ problem, response.check = .error (.fault (.rejected problem)) ∧ response.Reports problem ∧
          ∀ defect, ¬response.Unreported defect) ∨
        ∃ defect, response.Unreported defect ∧ response.check = .error (.defect defect)) := by
  by_cases accepted : response.isOk = true
  · obtain ⟨low, high⟩ := isOk_iff.mp accepted
    exact .inl ⟨low, high, by rw [check, if_pos accepted]⟩
  · have outside := mt isOk_iff.mpr accepted
    refine .inr ⟨by omega, ?_⟩
    obtain ⟨problem, checked, reports⟩ | escaped := check_refused (Bool.eq_false_of_not_eq_true accepted)
    · exact .inl ⟨problem, checked, reports, fun _ unreported =>
        not_reports_of_unreported unreported checked⟩
    · exact .inr escaped

/-- A rejection whose body is a row of 4301 ones does not come to a problem. -/
theorem long_integer_unreported :
    (⟨500, [], Text.Utf8.encode (List.replicate 4301 '1')⟩ : Response).check =
      .error (.defect (.longInteger (some 4301))) := by
  have decimal : ∀ c ∈ '1' :: List.replicate 4300 '1', c.isDigit := by
    rw [← List.replicate_succ]
    intro c member
    rw [List.eq_of_mem_replicate member]
    rfl
  have length : ('1' :: List.replicate 4300 '1').length = 4301 := by
    rw [List.length_cons, List.length_replicate]
  have read := @read_digits _ .ample _ decimal (by decide) (length ▸ Nat.lt_succ_self 4300)
  rw [length, ← List.replicate_succ] at read
  rw [check_eq_defect_iff, json_eq_defect_iff]
  exact ⟨rfl, _, read, .longInteger 4301⟩

end Response

end AcmeClient
