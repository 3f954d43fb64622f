import AcmeClient.Proofs.Client.Request
import AcmeClient.Proofs.Json.Documents
import AcmeClient.Resource.Account
import AcmeClient.Resource.Order
import Mathlib.Data.List.Basic

namespace AcmeClient

open Json

variable {α β : Type} {world between after : World} {defect : Defect} {response : Response}
  {call : Call} {reply : Reply} {document value : Json} {listed : List (String × Json)} {name : String}

/-- A limit of the reader is not foreseen: an integer has too many digits, or the body nests too deep. -/
inductive Json.ReadError.Escapes : ReadError → Defect → Prop
  | longInteger (digitCount : Nat) : Escapes (.longInteger digitCount) (.longInteger (some digitCount))
  | tooDeep (kind : String) : Escapes (.tooDeep kind) (.tooDeep kind)

theorem Json.ReadError.Escapes.unique {e other : ReadError} (escapes : e.Escapes defect)
    (others : other.Escapes defect) : e = other := by
  cases escapes <;> cases others <;> rfl

namespace Response

theorem json_eq_defect_iff :
    response.json = .error (.defect defect) ↔
      ∃ e, Json.read response.body response.room = .error e ∧ e.Escapes defect := by
  unfold json
  cases Json.read response.body response.room with
  | ok value => simp
  | error e =>
      simp only [Except.error.injEq, exists_eq_left']
      constructor
      · cases e <;> rintro ⟨⟩ <;> constructor
      · rintro (_ | _) <;> rfl

theorem check_eq_defect_iff :
    response.check = .error (.defect defect) ↔
      response.isOk = false ∧ response.json = .error (.defect defect) := by
  unfold check
  cases response.isOk with
  | true => simp
  | false =>
      cases read : response.json with
      | ok body => simp
      | error failure => cases failure <;> simp

theorem expectHeader_ne_defect (name : String) (response : Response) (defect : Defect) :
    response.expectHeader name ≠ .error (.defect defect) := by
  unfold expectHeader
  split
  · split <;> simp
  · simp

end Response

namespace Resource

theorem members_ne_defect (resource : String) (document : Json) (defect : Defect) :
    members resource document ≠ .error (.defect defect) := by
  unfold members
  split <;> simp

theorem members_eq_ok_iff {resource : String} :
    members resource document = .ok listed ↔ document = .obj listed := by
  unfold members
  split
  · simp
  · rename_i other
    simp only [reduceCtorEq, false_iff]
    exact other listed

/-- A member should list something, and is a number or a truth value. -/
def Unlisted (name : String) (listed : List (String × Json)) (defect : Defect) : Prop :=
  (member name listed).isTruthy ∧ (member name listed).elements? = none ∧
    defect = .notIterable (member name listed).kind

theorem elements_eq_defect_iff :
    elements (member name listed) = .error (.defect defect) ↔ Unlisted name listed defect := by
  unfold elements Unlisted
  cases (member name listed).isTruthy with
  | false => simp
  | true => cases (member name listed).elements? <;> simp [eq_comm (a := defect)]

theorem Directory.ofJson_ne_defect (document : Json) (defect : Defect) :
    Directory.ofJson document ≠ .error (.defect defect) := by
  rw [Directory.ofJson, ne_eq, bind_eq_error_iff]
  rintro (failed | ⟨listed, -, failed⟩)
  · exact members_ne_defect _ _ _ failed
  · simp only [bind, Except.bind] at failed
    split at failed <;> cases failed

theorem Account.ofJson_eq_defect_iff :
    Account.ofJson document = .error (.defect defect) ↔
      ∃ listed, document = .obj listed ∧ Unlisted "contact" listed defect := by
  simp [Account.ofJson, bind_eq_error_iff, members_ne_defect, members_eq_ok_iff,
    elements_eq_defect_iff, pure, Except.pure]

theorem Identifier.ofJson_ne_defect (document : Json) (defect : Defect) :
    Identifier.ofJson document ≠ .error (.defect defect) := by
  rw [Identifier.ofJson, ne_eq, bind_eq_error_iff]
  rintro (failed | ⟨listed, -, failed⟩)
  · exact members_ne_defect _ _ _ failed
  · split at failed
    · cases failed
    · split at failed
      · cases failed
      · split at failed <;> cases failed

theorem Order.readStatus_ne_defect (value : Json) (defect : Defect) :
    Order.readStatus value ≠ .error (.defect defect) := by
  unfold Order.readStatus
  split
  · simp
  · split <;> simp

/-- Where reading one after another fails, it fails at the first that cannot be read. -/
theorem first_of_mapM_eq_error {ε : Type} {read : α → Except ε β} {inputs : List α} {e : ε}
    (failed : inputs.mapM read = .error e) : ∃ before input after, inputs = before ++ input :: after ∧
      (∀ other ∈ before, ∃ result, read other = .ok result) ∧ read input = .error e := by
  induction inputs with
  | nil => cases failed
  | cons input rest ih =>
      rw [List.mapM_cons, bind_eq_error_iff] at failed
      rcases failed with first | ⟨result, known, failed⟩
      · exact ⟨[], input, rest, rfl, by simp, first⟩
      · rcases bind_eq_error_iff.mp failed with later | ⟨results, -, failed⟩
        · obtain ⟨before, other, after, rfl, readable, unread⟩ := ih later
          exact ⟨input :: before, other, after, rfl, List.forall_mem_cons.mpr ⟨⟨result, known⟩, readable⟩,
            unread⟩
        · cases failed

theorem exists_of_mapM_eq_error {ε : Type} {read : α → Except ε β} {inputs : List α} {e : ε}
    (failed : inputs.mapM read = .error e) : ∃ input ∈ inputs, read input = .error e := by
  obtain ⟨before, input, after, rfl, -, unread⟩ := first_of_mapM_eq_error failed
  exact ⟨input, by simp, unread⟩

theorem mapM_ne_error {ε : Type} {read : α → Except ε β} {e : ε} (items : List α)
    (foreseen : ∀ item, read item ≠ .error e) : items.mapM read ≠ .error e := by
  intro failed
  obtain ⟨item, -, known⟩ := exists_of_mapM_eq_error failed
  exact foreseen item known

/-- The identifiers of an order are listed, and each of them can be read. -/
def Order.Identified (listed : List (String × Json)) : Prop :=
  ∃ items identifiers, elements (member "identifiers" listed) = .ok items ∧
    items.mapM Identifier.ofJson = .ok identifiers

theorem Order.ofJson_eq_defect_iff :
    Order.ofJson document = .error (.defect defect) ↔
      ∃ listed status, document = .obj listed ∧ readStatus (member "status" listed) = .ok status ∧
        (Unlisted "identifiers" listed defect ∨
          Identified listed ∧ Unlisted "authorizations" listed defect) := by
  have identified := fun item => Identifier.ofJson_ne_defect item defect
  simp [Order.ofJson, bind_eq_error_iff, members_ne_defect, members_eq_ok_iff, readStatus_ne_defect,
    elements_eq_defect_iff, mapM_ne_error _ identified, pure, Except.pure, Identified,
    ← and_assoc]

end Resource

/-- What a reply is read for. -/
inductive Reading where
  | directory
  | nonce
  | account
  | order

namespace Reading

variable {reading : Reading}

/-- The first post that is accepted is a registration. -/
def ofPost (accepted : Bool) : Reading := if accepted then order else account

/-- What is read off an accepted response. -/
def read (response : Response) : Reading → Except Failure Unit
  | directory => do let _ ← Resource.Directory.ofJson (← response.json)
  | nonce => do let _ ← response.expectHeader "Replay-Nonce"
  | account => do
    let _ ← response.expectHeader "Location"
    let _ ← Resource.Account.ofJson (← response.json)
  | order => do
    let _ ← response.expectHeader "Location"
    let _ ← Resource.Order.ofJson (← response.json)

/-- What a reply comes to. -/
def comes (reading : Reading) (reply : Reply) : Except Failure Unit := do
  reading.read (← (← reply).check)

theorem comes_error (failure : Failure) : reading.comes (.error failure) = .error failure := rfl

theorem comes_refused {failure : Failure} (refused : response.check = .error failure) :
    reading.comes (.ok response) = .error failure := by
  simp [comes, bind, Except.bind, refused]

theorem comes_accepted (accepted : response.isOk) :
    reading.comes (.ok response) = reading.read response := by
  simp [comes, bind, Except.bind, Response.check_eq_ok_iff.mpr ⟨rfl, accepted⟩]

/-- Whether the body of an accepted response is looked at. -/
def Opens (response : Response) : Reading → Prop
  | directory => True
  | nonce => False
  | account | order => ∃ address, response.expectHeader "Location" = .ok address

end Reading

/-- What about a reply is not foreseen. -/
inductive Reply.Upsets (reading : Reading) : Reply → Defect → Prop
  /-- There is none, for a reason outside the reported ones. -/
  | failed {defect : Defect} : Upsets reading (.error (.defect defect)) defect
  /-- Its body goes beyond a limit of the reader. -/
  | unread {response : Response} {e : Json.ReadError} {defect : Defect} :
      (response.isOk → reading.Opens response) →
      Json.read response.body response.room = .error e → e.Escapes defect →
      Upsets reading (.ok response) defect
  /-- The contact of an account is no list. -/
  | contact {response : Response} {listed : List (String × Json)} {defect : Defect} :
      reading = .account → response.isOk → reading.Opens response →
      Json.read response.body response.room = .ok (.obj listed) → Resource.Unlisted "contact" listed defect →
      Upsets reading (.ok response) defect
  /-- The identifiers or the authorizations of an order are no list. What stands before them in it is
  read first. -/
  | order {response : Response} {listed : List (String × Json)} {defect : Defect}
      {status : Option Resource.OrderStatus} :
      reading = .order → response.isOk → reading.Opens response →
      Json.read response.body response.room = .ok (.obj listed) →
      Resource.Order.readStatus (Resource.member "status" listed) = .ok status →
      (Resource.Unlisted "identifiers" listed defect ∨
        Resource.Order.Identified listed ∧ Resource.Unlisted "authorizations" listed defect) →
      Upsets reading (.ok response) defect

namespace Reading

variable {reading : Reading}

theorem read_eq_defect_iff (accepted : response.isOk) :
    reading.read response = .error (.defect defect) ↔
      Reply.Upsets reading (.ok response) defect := by
  constructor
  · intro failed
    cases reading with
    | directory =>
        simp only [read, bind_eq_error_iff, Resource.Directory.ofJson_ne_defect, false_or] at failed
        obtain failed | ⟨_, -, _, -, failed⟩ := failed
        · obtain ⟨e, unread, escapes⟩ := Response.json_eq_defect_iff.mp failed
          exact .unread (fun _ => trivial) unread escapes
        · cases failed
    | nonce =>
        simp only [read, bind_eq_error_iff, Response.expectHeader_ne_defect, false_or] at failed
        obtain ⟨_, -, failed⟩ := failed
        cases failed
    | account =>
        simp only [read, bind_eq_error_iff, Response.expectHeader_ne_defect, false_or] at failed
        obtain ⟨address, located, failed | ⟨document, found, failed | ⟨_, -, failed⟩⟩⟩ := failed
        · obtain ⟨e, unread, escapes⟩ := Response.json_eq_defect_iff.mp failed
          exact .unread (fun _ => ⟨address, located⟩) unread escapes
        · obtain ⟨listed, rfl, unlisted⟩ := Resource.Account.ofJson_eq_defect_iff.mp failed
          exact .contact rfl accepted ⟨address, located⟩ (Response.json_eq_ok_iff.mp found) unlisted
        · cases failed
    | order =>
        simp only [read, bind_eq_error_iff, Response.expectHeader_ne_defect, false_or] at failed
        obtain ⟨address, located, failed | ⟨document, found, failed | ⟨_, -, failed⟩⟩⟩ := failed
        · obtain ⟨e, unread, escapes⟩ := Response.json_eq_defect_iff.mp failed
          exact .unread (fun _ => ⟨address, located⟩) unread escapes
        · obtain ⟨listed, status, rfl, known, unlisted⟩ :=
            Resource.Order.ofJson_eq_defect_iff.mp failed
          exact .order rfl accepted ⟨address, located⟩ (Response.json_eq_ok_iff.mp found) known unlisted
        · cases failed
  · intro upsets
    cases upsets with
    | unread opens unread escapes =>
        have failed := Response.json_eq_defect_iff.mpr ⟨_, unread, escapes⟩
        cases reading with
        | directory => simp [read, bind, Except.bind, failed]
        | nonce => exact absurd (opens accepted) id
        | account | order =>
            obtain ⟨address, located⟩ := opens accepted
            simp [read, bind, Except.bind, failed, located]
    | contact isAccount _ opens found unlisted =>
        subst isAccount
        obtain ⟨address, located⟩ := opens
        have failed := Resource.Account.ofJson_eq_defect_iff.mpr ⟨_, rfl, unlisted⟩
        simp [read, bind, Except.bind, located, Response.json_eq_ok_iff.mpr found, failed]
    | order isOrder _ opens found known unlisted =>
        subst isOrder
        obtain ⟨address, located⟩ := opens
        have failed := Resource.Order.ofJson_eq_defect_iff.mpr ⟨_, _, rfl, known, unlisted⟩
        simp [read, bind, Except.bind, located, Response.json_eq_ok_iff.mpr found, failed]

theorem comes_eq_defect_iff :
    reading.comes reply = .error (.defect defect) ↔ Reply.Upsets reading reply defect := by
  cases reply with
  | error failure =>
      rw [comes_error, Except.error.injEq]
      constructor
      · rintro rfl
        exact .failed
      · rintro ⟨⟩
        rfl
  | ok response =>
      cases accepted : response.isOk with
      | true => rw [comes_accepted accepted, read_eq_defect_iff accepted]
      | false =>
          constructor
          · intro failed
            simp only [comes, bind_eq_error_iff, reduceCtorEq, Except.ok.injEq, false_or,
              exists_eq_left', Response.check_eq_ok_iff, accepted, Bool.false_eq_true, and_false,
              false_and, exists_false, or_false, Response.check_eq_defect_iff, true_and] at failed
            obtain ⟨e, unread, escapes⟩ := Response.json_eq_defect_iff.mp failed
            exact .unread (by simp [accepted]) unread escapes
          · intro upsets
            cases upsets with
            | unread _ unread escapes =>
                exact comes_refused (Response.check_eq_defect_iff.mpr
                  ⟨accepted, Response.json_eq_defect_iff.mpr ⟨_, unread, escapes⟩⟩)
            | contact _ isOk => simp [accepted] at isOk
            | order _ isOk => simp [accepted] at isOk

end Reading

namespace Transcript

/-- Whether a post was accepted. -/
def accepts (transcript : Transcript) : Bool :=
  transcript.any fun exchange => match exchange with
    | (.post .., .ok response) => response.isOk
    | _ => false

/-- What the reply to a request is read for, by whether a post was accepted before. -/
def readingOf (accepted : Bool) : Call → Reading
  | .get _ => .directory
  | .head _ => .nonce
  | .post .. => .ofPost accepted

/-- What the last reply comes to. -/
def verdict (accepted : Bool) (transcript : Transcript) : Except Failure Unit :=
  match transcript.getLast? with
  | none => .ok ()
  | some (call, reply) => (readingOf (accepted || accepts transcript.dropLast) call).comes reply

/-- The last reply is upsetting. -/
def Upsets (transcript : Transcript) (defect : Defect) : Prop :=
  ∃ before call reply, transcript = before ++ [(call, reply)] ∧
    Reply.Upsets (readingOf (accepts before) call) reply defect

variable {accepted : Bool} {first second before : Transcript}

@[simp] theorem verdict_nil : verdict accepted [] = .ok () := rfl

@[simp] theorem verdict_concat :
    verdict accepted (before ++ [(call, reply)]) =
      (readingOf (accepted || before.accepts) call).comes reply := by
  simp [verdict]

@[simp] theorem accepts_append : accepts (first ++ second) = (first.accepts || second.accepts) := by
  simp [accepts]

theorem verdict_append (some : second ≠ []) :
    verdict accepted (first ++ second) = verdict (accepted || first.accepts) second := by
  obtain rfl | ⟨before, ⟨call, reply⟩, rfl⟩ := List.eq_nil_or_concat' second
  · contradiction
  · rw [← List.append_assoc, verdict_concat, verdict_concat, accepts_append, Bool.or_assoc]

theorem verdict_eq_defect_iff {transcript : Transcript} :
    transcript.verdict false = .error (.defect defect) ↔ transcript.Upsets defect := by
  constructor
  · intro failed
    obtain rfl | ⟨before, ⟨call, reply⟩, rfl⟩ := List.eq_nil_or_concat' transcript
    · contradiction
    · rw [verdict_concat, Bool.false_or, Reading.comes_eq_defect_iff] at failed
      exact ⟨before, call, reply, rfl, failed⟩
  · rintro ⟨before, call, reply, rfl, upsets⟩
    rwa [verdict_concat, Bool.false_or, Reading.comes_eq_defect_iff]

end Transcript

theorem Exchanged.unique {first second : Transcript} (one : Exchanged world after first)
    (other : Exchanged world after second) : first = second := by
  have calls : first.map Prod.fst = second.map Prod.fst := by
    have same := one.calls.symm.trans other.calls
    exact List.append_cancel_left same
  have lengths : first.length = second.length := by simpa using congrArg List.length calls
  refine List.ext_getElem lengths fun i inside insideOther => Prod.ext ?_ ?_
  · have same := List.getElem_of_eq calls (by simpa using inside)
    simpa only [List.getElem_map] using same
  · rw [one.replies i inside, other.replies i insideOther]

end AcmeClient
