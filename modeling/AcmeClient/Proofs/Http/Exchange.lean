import AcmeClient.Http.Exchange
import Mathlib.Data.List.DropRight

namespace AcmeClient

open List (Sublist)

variable {blank : Char → Bool} {text : List Char}

namespace Text

end Text

namespace Url

/-- An address starts with the name of a kind, up to its first colon and with no slash in it. -/
def NamesKind (text : List Char) : Prop :=
  ∃ kind rest, text = kind ++ ':' :: rest ∧ kind ≠ [] ∧ ∀ c ∈ kind, c ≠ '/' ∧ c ≠ ':'

theorem hasKind_iff {url : Url} : url.hasKind ↔ NamesKind url.base := by
  unfold hasKind NamesKind
  constructor
  · intro named
    simp only [Bool.and_eq_true, Bool.not_eq_true', List.isEmpty_eq_false_iff, beq_iff_eq] at named
    obtain ⟨nonempty, colon⟩ := named
    obtain ⟨rest, behind⟩ := List.head?_eq_some_iff.mp colon
    refine ⟨_, rest, ?_, nonempty, fun c member => ?_⟩
    · rw [← behind]
      exact (List.prefix_iff_eq_append.mp (List.takeWhile_prefix _)).symm
    · simpa using List.mem_takeWhile_imp member
  · rintro ⟨kind, rest, apart, nonempty, plain⟩
    have taken : url.base.takeWhile (fun c => c != '/' && c != ':') = kind := by
      rw [apart, List.takeWhile_append_of_pos fun c member => by simpa using plain c member]
      simp
    simp only [taken]
    rw [apart, List.drop_left]
    simp [nonempty]

end Url

/-- The peer answers, with any status. Where an answer with an error status has no headers or its
body cannot be read, there are none, and the body is empty. -/
inductive Outcome.Answers :
    Outcome → (status : Int) → (headers : List (String × String)) → (content : Bytes) → Prop
  | answered {status : Int} {headers : List (String × String)} {content : Bytes} :
      Answers (.answered status headers (.ok content)) status headers content
  | refused {status : Int} {headers : Option (List (String × String))} {content : Bytes} :
      Answers (.refused status headers (.ok content)) status (headers.getD []) content
  | unread {status : Int} {headers : Option (List (String × String))} {reason : String} :
      Answers (.refused status headers (.error reason)) status (headers.getD []) []

/-- There is no answer, or one whose body cannot be read. -/
inductive Outcome.Fails : Outcome → (reason : String) → Prop
  | unread {status : Int} {headers : List (String × String)} {reason : String} :
      Fails (.answered status headers (.error reason)) reason
  | unreachable {reason : String} : Fails (.unreachable reason) s!"<urlopen error {reason}>"
  | broken {reason : String} : Fails (.broken reason) reason

namespace Transport

variable {t : Transport} {method : Method} {url : String} {body : Option (Bytes × String)}
  {peer : Request → Outcome} {outcome : Outcome} {response : Response} {fault : Fault}
  {defect : Defect} {request : Request}

theorem receive_eq_ok_iff :
    receive method url outcome = .ok response ↔
      ∃ status headers content, outcome.Answers status headers content ∧
        response = ⟨status, Assoc.ofList headers, content⟩ := by
  constructor
  · intro received
    unfold receive at received
    split at received
    · exact ⟨_, _, _, .answered, (Except.ok.inj received).symm⟩
    · cases received
    · rename_i status headers content
      cases content with
      | ok content => exact ⟨_, _, _, .refused, (Except.ok.inj received).symm⟩
      | error reason => exact ⟨_, _, _, .unread, (Except.ok.inj received).symm⟩
    · cases received
    · cases received
    · cases received
  · rintro ⟨status, headers, content, answers, rfl⟩
    cases answers <;> rfl

theorem receive_eq_fault_iff :
    receive method url outcome = .error (.fault fault) ↔
      ∃ reason, outcome.Fails reason ∧ fault = .noResponse method.text url reason := by
  constructor
  · intro received
    unfold receive at received
    split at received
    · cases received
    · cases received
      exact ⟨_, .unread, rfl⟩
    · cases received
    · cases received
      exact ⟨_, .unreachable, rfl⟩
    · cases received
      exact ⟨_, .broken, rfl⟩
    · cases received
  · rintro ⟨reason, fails, rfl⟩
    cases fails <;> rfl

theorem receive_eq_defect_iff :
    receive method url outcome = .error (.defect defect) ↔
      ∃ reason, outcome = .garbled reason ∧ defect = .garbledExchange reason := by
  unfold receive
  split <;> simp [eq_comm (a := defect)]

/-- The request for an address: it goes there with the name of the program and, with a body, the media
type of it. -/
def message (t : Transport) (method : Method) (url : String) (body : Option (Bytes × String)) :
    Request where
  method
  url := (Url.ofString url).toString
  headers := ("User-Agent", t.userAgent) :: (body.map fun sent => ("Content-Type", sent.2)).toList
  body := body.map Prod.fst
  timeout := t.timeout

theorem request_eq_error_iff {failure : Failure} :
    t.request method url body = .error failure ↔
      (Url.ofString url).hasKind = false ∧
        failure = .defect (.unknownUrlKind (Text.quotedString (Url.ofString url).toString)) := by
  unfold Transport.request
  cases kind : (Url.ofString url).hasKind <;> simp [kind, eq_comm (a := failure)]

theorem exchange_of_request_eq_error {failure : Failure}
    (failed : t.request method url body = .error failure) (peer : Request → Outcome) :
    t.exchange method url body peer = ⟨none, .error failure⟩ := by
  unfold exchange
  rw [failed]

theorem exchange_of_request_eq_ok (asked : t.request method url body = .ok request)
    (peer : Request → Outcome) :
    t.exchange method url body peer = ⟨some request, receive method url (peer request)⟩ := by
  unfold exchange
  rw [asked]

theorem request_eq_ok_iff :
    t.request method url body = .ok request ↔
      Url.NamesKind (Url.ofString url).base ∧ request = t.message method url body := by
  rw [← Url.hasKind_iff]
  unfold Transport.request
  cases kind : (Url.ofString url).hasKind with
  | false => simp [kind]
  | true => cases body <;> simp [kind, message, eq_comm (a := request)]

end Transport

/-- What becomes of an exchange, as it should be: a request goes out to an address that names its
kind, an answer is a response, and a failure is reported as one of the transport that another try may
help. Anything else is not foreseen. -/
structure Exchange.Classified (e : Exchange) (t : Transport) (method : Method) (url : String)
    (body : Option (Bytes × String)) (peer : Request → Outcome) : Prop where
  sends : ∀ request, e.sent = some request ↔
    Url.NamesKind (Url.ofString url).base ∧ request = t.message method url body
  responds : ∀ response, e.result = .ok response ↔
    ∃ request status headers content, e.sent = some request ∧
      (peer request).Answers status headers content ∧
      response = ⟨status, Assoc.ofList headers, content⟩
  fails : ∀ fault, e.result = .error (.fault fault) ↔
    ∃ request reason, e.sent = some request ∧ (peer request).Fails reason ∧
      fault = .noResponse method.text url reason
  reports : ∀ fault, e.result = .error (.fault fault) → fault.area = .transport ∧ fault.isRetryable
  breaks : ∀ defect, e.result = .error (.defect defect) ↔
    (e.sent = none ∧
        defect = .unknownUrlKind (Text.quotedString (Url.ofString url).toString)) ∨
      ∃ request reason, e.sent = some request ∧ peer request = .garbled reason ∧
        defect = .garbledExchange reason

theorem Transport.exchange_classified (t : Transport) (method : Method) (url : String)
    (body : Option (Bytes × String)) (peer : Request → Outcome) :
    (t.exchange method url body peer).Classified t method url body peer := by
  cases asked : t.request method url body with
  | error failure =>
      have unnamed : ¬ Url.NamesKind (Url.ofString url).base := fun named => by
        rw [request_eq_ok_iff.mpr ⟨named, rfl⟩] at asked
        contradiction
      rw [exchange_of_request_eq_error asked]
      obtain ⟨-, rfl⟩ := request_eq_error_iff.mp asked
      exact {
        sends := by simp [unnamed]
        responds := by simp
        fails := by simp
        reports := by simp
        breaks := by simp [eq_comm (a := Defect.unknownUrlKind _)] }
  | ok request =>
      rw [exchange_of_request_eq_ok asked]
      obtain ⟨named, rfl⟩ := request_eq_ok_iff.mp asked
      exact {
        sends := by simp [named, eq_comm]
        responds := by simp [receive_eq_ok_iff]
        fails := by simp [receive_eq_fault_iff]
        reports := by
          intro fault failed
          obtain ⟨reason, -, rfl⟩ := receive_eq_fault_iff.mp failed
          exact ⟨rfl, rfl⟩
        breaks := by simp [receive_eq_defect_iff] }

end AcmeClient
