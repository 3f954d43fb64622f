import AcmeClient.Proofs.Client.AccountKey
import AcmeClient.Proofs.Client.Posts
import AcmeClient.Proofs.Client.Replies

namespace AcmeClient

open Json

variable {α β : Type} {world after : World} {defect : Defect} {response : Response}

theorem map_eq_defect_iff {result : Except Failure α} :
    result.map (fun _ => ()) = .error (.defect defect) ↔ result = .error (.defect defect) := by
  cases result <;> simp [Except.map]

/-- In a storage that can be named, what a computation came to is unforeseen exactly if what the last
reply comes to is. -/
structure Heeded (accepted registered : Bool) (world : World) (ran : Except Failure α × World)
    (transcript : Transcript) : Prop where
  exchanged : Exchanged world ran.2 transcript
  nameable : ran.2.storage.isNameable
  defect_iff : ∀ defect, ran.1 = .error (.defect defect) ↔
    transcript.verdict accepted = .error (.defect defect)
  registers : ∀ value, ran.1 = .ok value → (accepted || transcript.accepts) = registered

namespace Client

/-- A computation that heeds the last reply. A post was accepted before it, or is when it is done, as
the two truth values say. -/
def Heeds (accepted registered : Bool) (action : Client α) : Prop :=
  ∀ world, world.storage.isNameable →
    ∃ transcript, Heeded accepted registered world (outcome action world) transcript

variable {accepted registered done : Bool}

theorem heeds_bind {action : Client α} {next : α → Client β}
    (first : Heeds accepted registered action)
    (later : ∀ world value after, outcome action world = (.ok value, after) →
      Heeds registered done (next value)) : Heeds accepted done (action >>= next) := by
  intro world nameable
  obtain ⟨before, heeded⟩ := first world nameable
  rw [outcome_bind]
  cases ran : outcome action world with
  | mk result between =>
      rw [ran] at heeded
      cases result with
      | error failure =>
          exact ⟨before, heeded.exchanged, heeded.nameable, by simpa using heeded.defect_iff, by simp⟩
      | ok value =>
          obtain ⟨transcript, rest⟩ := later _ _ _ ran between heeded.nameable
          have registers := heeded.registers value rfl
          refine ⟨before ++ transcript, heeded.exchanged.trans rest.exchanged, rest.nameable,
            fun defect => ?_, fun result done => ?_⟩
          · -- Where nothing is asked any more, the last reply is one that was heeded already.
            obtain rfl | some := Classical.em (transcript = [])
            · rw [List.append_nil, rest.defect_iff, ← heeded.defect_iff]
              simp
            · rw [Transcript.verdict_append some, registers, rest.defect_iff]
          · rw [Transcript.accepts_append, ← Bool.or_assoc, registers, rest.registers result done]

/-- A computation that asks nothing and fails in no unforeseen way. -/
theorem heeds_of_silent {action : Client α} (silent : Keeps Silent action)
    (foreseen : ∀ world, world.storage.isNameable →
      (outcome action world).2.storage.isNameable ∧
        ∀ defect, (outcome action world).1 ≠ .error (.defect defect)) :
    Heeds accepted accepted action := by
  intro world nameable
  obtain ⟨stays, foreseen⟩ := foreseen world nameable
  exact ⟨[], silent world, stays, fun defect => by simpa using foreseen defect,
    fun value _ => by simp [Transcript.accepts]⟩

theorem heeds_pure (value : α) : Heeds accepted accepted (pure value : Client α) :=
  heeds_of_silent (keeps_pure lasts_silent value) fun _ nameable => ⟨nameable, by simp⟩

theorem heeds_debug (logger message : String) : Heeds accepted accepted (debug logger message) :=
  heeds_of_silent (keeps_debug lasts_silent logger message) fun _ nameable => ⟨nameable, by simp⟩

theorem heeds_ofExcept {result : Except Failure α}
    (foreseen : ∀ defect, result ≠ .error (.defect defect)) :
    Heeds accepted accepted (ofExcept result : Client α) := by
  refine heeds_of_silent (keeps_ofExcept lasts_silent result) fun _ nameable => ?_
  rw [outcome_ofExcept]
  exact ⟨nameable, foreseen⟩

theorem heeds_readEntry (entry : Storage.Key) : Heeds accepted accepted (readEntry entry) := by
  refine heeds_of_silent (keeps_readEntry lasts_silent entry) fun world nameable => ?_
  rw [outcome_readEntry]
  refine ⟨nameable, fun defect failed => ?_⟩
  rw [(Storage.get_eq_defect_iff.mp failed).1] at nameable
  contradiction

end Client

namespace Provider

variable {provider : Provider} {build : Builder} {accepted : Bool}

theorem ofUrl_comes (url : String) (attempts : Int) (world : World) :
    (Client.outcome (ofUrl url attempts) world).1.map (fun _ => ()) =
      Reading.directory.comes world.nextReply := by
  rw [ofUrl, Client.outcome_bind, Client.outcome_debug]
  simp only
  rw [Client.outcome_bind, Client.outcome_send, World.told_nextReply]
  cases world.nextReply with
  | error failure => rfl
  | ok response =>
      simp only
      rw [Client.outcome_bind, check, Client.outcome_ofExcept]
      cases checked : response.check with
      | error failure => rw [Reading.comes_refused checked]; rfl
      | ok same =>
          obtain ⟨rfl, accepted⟩ := Response.check_eq_ok_iff.mp checked
          rw [Reading.comes_accepted accepted, Reading.read]
          simp only [Client.outcome_bind, Client.outcome_ofExcept]
          cases same.json with
          | error failure => rfl
          | ok document =>
              cases made : Resource.Directory.ofJson document <;> simp [bind, Except.bind, made] <;> rfl

theorem keeps_ofUrl {kept : World → World → Prop} (lasts : Client.Lasts kept)
    (sends : ∀ world call, kept world (world.sent call)) (url : String) (attempts : Int) :
    Client.Keeps kept (ofUrl url attempts) := by
  have send (call : Call) : Client.Keeps kept (Client.send call) := by
    intro world
    rw [Client.outcome_send]
    exact sends world call
  refine Client.keeps_bind lasts (Client.keeps_debug lasts _ _) fun _ => ?_
  refine Client.keeps_bind lasts (send _) fun _ => ?_
  refine Client.keeps_bind lasts (Client.keeps_ofExcept lasts _) fun _ => ?_
  refine Client.keeps_bind lasts (Client.keeps_ofExcept lasts _) fun _ => ?_
  exact Client.keeps_bind lasts (Client.keeps_ofExcept lasts _) fun _ => Client.keeps_pure lasts _

theorem ofUrl_rests (url : String) (attempts : Int) (world : World) :
    world.Rests (Client.outcome (ofUrl url attempts) world).2 :=
  keeps_ofUrl World.lasts_rests (fun _ _ => ⟨rfl, rfl⟩) url attempts world

theorem attempts_of_ofUrl {url : String} {attempts : Int}
    (opened : Client.outcome (ofUrl url attempts) world = (.ok provider, after)) :
    provider.attempts = attempts := by
  unfold ofUrl at opened
  obtain ⟨_, _, -, opened⟩ := Client.outcome_bind_eq_ok opened
  obtain ⟨_, _, -, opened⟩ := Client.outcome_bind_eq_ok opened
  obtain ⟨_, _, -, opened⟩ := Client.outcome_bind_eq_ok opened
  obtain ⟨_, _, -, opened⟩ := Client.outcome_bind_eq_ok opened
  obtain ⟨_, _, -, opened⟩ := Client.outcome_bind_eq_ok opened
  rw [Client.outcome_pure, Prod.mk.injEq, Except.ok.injEq] at opened
  rw [← opened.1]

theorem ofUrl_defect_iff (url : String) (attempts : Int) (world : World) (defect : Defect) :
    (Client.outcome (ofUrl url attempts) world).1 = .error (.defect defect) ↔
      Transcript.verdict false [(.get (.str url), world.nextReply)] = .error (.defect defect) := by
  rw [← map_eq_defect_iff, ofUrl_comes]
  rfl

theorem heeds_ofUrl (url : String) (attempts : Int) :
    Client.Heeds false false (ofUrl url attempts) := fun world nameable =>
  ⟨_, ofUrl_exchanged url attempts world, by rwa [(ofUrl_rests url attempts world).storage],
    ofUrl_defect_iff url attempts world, fun _ _ => by simp [Transcript.accepts]⟩

theorem heeds_accountKey (realm : String) : Client.Heeds accepted accepted (accountKey realm) := by
  refine Client.heeds_of_silent (fun world => (accountKey_spec realm world).1) fun world nameable => ?_
  have looked := accountKey_looked realm world
  generalize Client.outcome (accountKey realm) world = ran at looked
  cases looked with
  | unreadable unread =>
      refine ⟨nameable, ?_⟩
      rintro defect ⟨⟩
      rw [(Storage.get_eq_defect_iff.mp unread).1] at nameable
      contradiction
  | usable | unusable => exact ⟨nameable, by simp⟩
  | unstored absent put =>
      have stays := Storage.isNameable_put world.storage (accountEntry realm) (nextKey world).toPem
      rw [put] at stays
      refine ⟨stays.trans nameable, ?_⟩
      rintro defect ⟨⟩
      obtain ⟨fault, same, -⟩ := Storage.put_error_isStorage nameable put
      contradiction
  | stored absent put =>
      have stays := Storage.isNameable_put world.storage (accountEntry realm) (nextKey world).toPem
      rw [put] at stays
      exact ⟨stays.trans nameable, by simp⟩

variable {logger message : String} {url : Json} {key : AccountKey} {sender : Sender} {content : Json}

theorem sealing_ne_defect (nonce : String) (world after : World) (defect : Defect) :
    Client.outcome (sealing logger message url key sender content nonce) world ≠
      (.error (.defect defect), after) := by
  unfold sealing Provider.sealed
  rw [Client.outcome_bind, Client.outcome_debug]
  cases Envelope.sign key sender (.str nonce) url (some content) <;> simp

theorem Performed.made_last {attempts : List Attempt} {last : Attempt}
    (performed : Performed provider build world attempts after)
    (isLast : attempts.getLast? = some last) :
    ∃ between, Attempt.Made provider build between last after := by
  induction performed with
  | last made =>
      cases isLast
      exact ⟨_, made⟩
  | @more _ _ _ _ rest _ _ performed ih =>
      cases rest with
      | nil => cases performed
      | cons next rest => exact ih (by rwa [List.getLast?_cons_cons] at isLast)

theorem StopsDuly.rejected {total : Int} {front : List Attempt} {last attempt : Attempt}
    (duly : StopsDuly total (front ++ [last])) (member : attempt ∈ front) : attempt.IsRejected := by
  obtain ⟨i, inside, rfl⟩ := List.getElem_of_mem member
  have more := (duly i (by simp; omega)).mp (by simp; omega)
  rw [List.getElem_append_left inside] at more
  exact more.2

theorem Attempt.not_accepts {attempt : Attempt} (rejected : attempt.IsRejected) (newNonce : Json) :
    Transcript.accepts (attempt.exchanges newNonce) = false := by
  obtain ⟨answer, answered, refused, -⟩ := rejected
  cases attempt with
  | answered reply nonce url body other =>
      obtain rfl : other = answer := by simpa [answer?] using answered
      simp [exchanges, Transcript.accepts, refused]
  | _ => simp [answer?] at answered

theorem not_accepts_of_stopsDuly {total : Int} {front : List Attempt} {last : Attempt}
    (duly : StopsDuly total (front ++ [last])) (newNonce : Json) :
    Transcript.accepts (front.flatMap (Attempt.exchanges newNonce)) = false := by
  rw [Transcript.accepts, List.any_flatMap, List.any_eq_false]
  intro attempt member
  rw [Bool.not_eq_true]
  exact Attempt.not_accepts (duly.rejected member) newNonce

/-- What the last attempt comes to is unforeseen exactly if what its last reply comes to is. -/
theorem Attempt.Made.verdict_iff {attempt : Attempt}
    (made : Attempt.Made provider (sealing logger message url key sender content) world attempt after)
    (accepted : Bool) (defect : Defect) :
    (attempt.result.bind fun response => (Reading.ofPost accepted).read response) =
        .error (.defect defect) ↔
      Transcript.verdict accepted (attempt.exchanges provider.endpoints.newNonce) =
        .error (.defect defect) := by
  cases made with
  | unheard heard | unanswered heard found built answered => rfl
  | @noNonce reply failure heard found =>
      have comes : Reading.nonce.comes (.ok reply) = .error failure := by
        obtain refused | ⟨response, checked, missing⟩ := bind_eq_error_iff.mp found
        · exact Reading.comes_refused refused
        · obtain ⟨rfl, accepted⟩ := Response.check_eq_ok_iff.mp checked
          rw [Reading.comes_accepted accepted, Reading.read, missing]
          rfl
      change Except.error failure = _ ↔ Reading.nonce.comes (.ok reply) = _
      rw [comes]
  | @unbuilt reply nonce failure _ heard found built =>
      have comes : Reading.nonce.comes (.ok reply) = .ok () := by
        obtain ⟨response, checked, located⟩ := exists_of_bind_eq_ok found
        obtain ⟨rfl, accepted⟩ := Response.check_eq_ok_iff.mp checked
        rw [Reading.comes_accepted accepted, Reading.read, located]
        rfl
      change Except.error failure = _ ↔ Reading.nonce.comes (.ok reply) = _
      rw [comes]
      simp only [Except.error.injEq, reduceCtorEq, iff_false]
      rintro rfl
      exact sealing_ne_defect _ _ _ _ built
  | @answered reply nonce target body _ _ answer heard found built answered =>
      have reading : Transcript.verdict accepted
          (exchanges provider.endpoints.newNonce (.answered reply nonce target body answer)) =
            (Reading.ofPost accepted).comes (.ok answer) := by
        simp [exchanges, Transcript.verdict, Transcript.accepts, Transcript.readingOf]
      rw [reading]
      rfl

theorem Attempt.accepts_of_result {attempt : Attempt} (done : attempt.result = .ok response)
    (newNonce : Json) : Transcript.accepts (attempt.exchanges newNonce) := by
  obtain ⟨answered, accepted⟩ := Attempt.result_eq_ok_iff.mp done
  cases attempt with
  | answered reply nonce url body answer =>
      obtain rfl : answer = response := by simpa [answer?] using answered
      simp [exchanges, Transcript.accepts, accepted]
  | _ => simp [answer?] at answered

theorem Attempt.exchanges_ne_nil (attempt : Attempt) (newNonce : Json) :
    attempt.exchanges newNonce ≠ [] := by
  cases attempt <;> simp [exchanges]

/-- A request and what is made of its response, if that is read for the account or order that a post is
for. -/
theorem heeds_request {next : Response → Client α} (positive : 1 ≤ provider.attempts)
    (silent : ∀ response, Client.Keeps Silent (next response))
    (rests : ∀ response, Client.Keeps World.Rests (next response))
    (reads : ∀ response world, (Client.outcome (next response) world).1.map (fun _ => ()) =
      (Reading.ofPost accepted).read response) :
    Client.Heeds accepted true
      (provider.request (sealing logger message url key sender content) none >>= next) := by
  intro world nameable
  obtain ⟨attempts, last, ended, performed, isLast, duly, done⟩ :=
    request_attempted provider (sealing logger message url key sender content) none positive world
  have exchanged := performed.exchanged sealing_isQuiet
  have stays := performed.kept World.lasts_rests (fun _ _ => ⟨rfl, rfl⟩)
    fun nonce => keeps_sealing World.lasts_rests nonce
  obtain ⟨_, made⟩ := performed.made_last isLast
  obtain ⟨front, rfl⟩ := List.getLast?_eq_some_iff.mp isLast
  rw [List.flatMap_append, List.flatMap_singleton] at exchanged
  have verdict : Transcript.verdict accepted
      (front.flatMap (Attempt.exchanges provider.endpoints.newNonce) ++
        last.exchanges provider.endpoints.newNonce) =
      Transcript.verdict accepted (last.exchanges provider.endpoints.newNonce) := by
    rw [Transcript.verdict_append (last.exchanges_ne_nil _), not_accepts_of_stopsDuly duly,
      Bool.or_false]
  rw [Client.outcome_bind, done]
  cases comes : last.result with
  | error failure =>
      refine ⟨_, exchanged, by rwa [stays.storage], fun defect => ?_, by simp⟩
      rw [verdict, ← made.verdict_iff, comes]
      simp [Except.bind]
  | ok response =>
      have whole := exchanged.trans (silent response ended)
      rw [List.append_nil] at whole
      refine ⟨_, whole, ?_, fun defect => ?_, fun value _ => ?_⟩
      · rwa [(rests response ended).storage, stays.storage]
      · rw [verdict, ← made.verdict_iff, comes, ← map_eq_defect_iff, reads]
        rfl
      · rw [Transcript.accepts_append, Attempt.accepts_of_result comes, Bool.or_true, Bool.or_true]

/-- What is read off a response: where something stands, and what it is. -/
theorem map_made (read : Json → Except Failure α) (make : α → String → β) (response : Response) :
    (response.made read make).map (fun _ => ()) = (do
      let _ ← response.expectHeader "Location"
      let _ ← read (← response.json)) := by
  rw [Response.made]
  cases response.expectHeader "Location" with
  | error failure => rfl
  | ok address =>
      cases response.json with
      | error failure => rfl
      | ok document => cases found : read document <;> simp [bind, Except.bind, found] <;> rfl

theorem heeds_register (positive : 1 ≤ provider.attempts) (realm : String) {contact : Json}
    {items : List Json} (listed : Resource.elements contact = .ok items) (key : AccountKey) :
    Client.Heeds false true (provider.register realm contact key) := by
  rw [register_eq, listed]
  refine Client.heeds_bind (Client.heeds_ofExcept (by simp)) fun _ _ _ _ => ?_
  exact heeds_request positive (keeps_registered lasts_silent realm)
    (keeps_registered World.lasts_rests realm) fun response world => by
      rw [outcome_registered]
      exact map_made _ _ response

theorem heeds_account (positive : 1 ≤ provider.attempts) (email : String) :
    Client.Heeds false true (provider.account email) :=
  Client.heeds_bind (heeds_accountKey email) fun _ key _ _ =>
    heeds_register positive email rfl key

theorem of_account {email : String} {account : Account}
    (done : Client.outcome (provider.account email) world = (.ok account, after)) :
    account.provider = provider ∧ account.realm = email := by
  rw [Provider.account, accountOfRealm_eq] at done
  obtain ⟨key, _, -, done⟩ := Client.outcome_bind_eq_ok done
  rw [register_eq] at done
  obtain ⟨_, _, -, done⟩ := Client.outcome_bind_eq_ok done
  obtain ⟨_, _, -, done⟩ := Client.outcome_bind_eq_ok done
  obtain ⟨same, named, -⟩ := of_registered done
  exact ⟨same, named⟩

end Provider

namespace Account

variable {account : Account} {accepted : Bool}

theorem heeds_order (positive : 1 ≤ account.provider.attempts) (primary : Json)
    (others : List Json) : Client.Heeds true true (account.order primary (.arr others)) := by
  rw [order_eq]
  refine Client.heeds_bind (Client.heeds_ofExcept (by simp [otherNames, elements?]))
    fun _ names _ _ => ?_
  exact Provider.heeds_request positive (keeps_taken lasts_silent account _)
    (keeps_taken World.lasts_rests account _)
    fun response world => by
      rw [outcome_taken]
      exact Provider.map_made _ _ response

theorem heeds_readText (entry : Storage.Key) :
    Client.Heeds accepted accepted (readText entry) := by
  refine Client.heeds_bind (Client.heeds_readEntry entry) fun _ found _ _ => ?_
  cases found <;> exact Client.heeds_pure _

theorem heeds_certificate (account : Account) (name : String) :
    Client.Heeds accepted accepted (account.certificate name) := by
  refine Client.heeds_bind (Client.heeds_debug _ _) fun _ _ _ _ => ?_
  refine Client.heeds_bind (heeds_readText _) fun _ _ _ _ => ?_
  refine Client.heeds_bind (Client.heeds_debug _ _) fun _ _ _ _ => ?_
  exact Client.heeds_bind (heeds_readText _) fun _ _ _ _ => Client.heeds_pure _

end Account

end AcmeClient
