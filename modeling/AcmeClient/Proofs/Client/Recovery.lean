import AcmeClient.Proofs.Client.AccountKey
import AcmeClient.Proofs.Client.Retries
import AcmeClient.Proofs.Client.TwoRuns
import AcmeClient.Proofs.Json.Documents

namespace AcmeClient

variable {α : Type}

open Provider

/-- How many attempts were made between two worlds. -/
def attemptsMade (world after : World) : Nat :=
  (after.calls.drop world.calls.length).countP Call.isHead

/-- What comes of an operation when nonces are rejected first is what would have come of it otherwise.
All requests of both runs are for nonces, or post what is built in the same way. -/
structure Recovered (newNonce : Json) (seals : String → Json → Bytes → Prop) (world : World)
    (ran longer : Except Failure α × World) : Prop where
  result : longer.1 = ran.1
  storage : longer.2.storage = ran.2.storage
  generated : longer.2.generated = ran.2.generated
  sends : ∃ front rest, ran.2.calls = world.calls ++ rest ∧
    longer.2.calls = world.calls ++ (front ++ rest) ∧
    ∀ call ∈ front ++ rest, call = .head newNonce ∨ ∃ nonce url body,
      seals nonce url body ∧ call = .post url Envelope.mediaType body

theorem Recovered.since {newNonce : Json} {seals : String → Json → Bytes → Prop} {world between : World}
    {ran longer : Except Failure α × World} (recovered : Recovered newNonce seals between ran longer)
    (silent : between.calls = world.calls) : Recovered newNonce seals world ran longer where
  result := recovered.result
  storage := recovered.storage
  generated := recovered.generated
  sends := by
    rw [← silent]
    exact recovered.sends

section

variable {action : Client α} {course : Course α} {world other : World} {extra : List Rejection}
  {newNonce url content : Json} {key : AccountKey} {sender : Sender} {allowed : Int} {nonce : String}

theorem calls_of_follows (follows : Client.Follows action course) (world : World) :
    (Client.outcome action world).2.calls = world.calls ++ course.sends world := by
  rw [(follows world world ⟨rfl, rfl, rfl⟩).2.calls, course.calls_play_eq]

theorem exists_sealedFor (signs : key.refusal = none) (nonce : String) :
    ∃ made, sealedFor url key sender content nonce = .ok made := by
  simp only [sealedFor, Envelope.sign, AccountKey.sign, signs]
  exact ⟨_, rfl⟩

/-- An operation that makes attempts and leaves the storage alone. -/
theorem recovered_of_follows (follows : Client.Follows action course)
    (rests : Client.Keeps World.Rests action)
    (tries : course.Tries newNonce (sealedFor url key sender content) allowed)
    (signs : key.refusal = none) (ahead : world.Ahead extra other)
    (enough : (attemptsMade world (Client.outcome action world).2 : Int) + extra.length ≤ allowed) :
    Recovered newNonce (Seals url key sender content) world (Client.outcome action world)
      (Client.outcome action other) := by
  have calls := calls_of_follows follows world
  rw [attemptsMade, calls, List.drop_left] at enough
  obtain ⟨results, front, sent, attempted⟩ :=
    tries.preceded (fun rejection _ => exists_sealedFor signs rejection.nonce) enough
  obtain ⟨same, resembles⟩ := follows _ _ ahead.resembles
  refine ⟨?_, ?_, ?_, front, course.sends world, calls, ?_, fun call member => ?_⟩
  · rw [same, (follows world world ⟨rfl, rfl, rfl⟩).1, results]
  · rw [(rests _).storage, (rests world).storage, ahead.storage]
  · rw [(rests _).generated, (rests world).generated, ahead.generated]
  · rw [resembles.calls, course.calls_play_eq, sent, World.preceded]
  · obtain rfl | ⟨nonce, made, built, rfl⟩ := attempted call member
    · exact .inl rfl
    · exact .inr ⟨nonce, made.1, made.2, seals_of_sealedFor built, rfl⟩

end

namespace Provider

variable {provider : Provider} {realm : String} {contact : Json} {key : AccountKey} {extra : List Rejection}
  {world other : World}

/-- The account that a response tells of. -/
def welcomed (provider : Provider) (realm : String) (key : AccountKey) (response : Response) :
    Except Failure Account := do
  let accountUrl ← response.expectHeader "Location"
  let resource ← Resource.Account.ofJson (← response.json)
  return ⟨provider, realm, key, resource, accountUrl⟩

theorem follows_registered (response : Response) :
    Client.Follows (provider.registered realm key response)
      (.ended (provider.welcomed realm key response)) := by
  refine (Client.follows_ofExcept _).ended fun accountUrl => ?_
  refine (Client.follows_ofExcept _).ended fun document => ?_
  refine (Client.follows_ofExcept _).ended fun resource => ?_
  exact (Client.follows_pure _).told _ _ _

/-- What a registration asks, and how it goes on. -/
def registering (provider : Provider) (realm : String) (contact : Json) (key : AccountKey) :
    Course Account :=
  (Course.ended (Resource.elements contact)).bind fun items =>
    if provider.attempts < 1 then
      .ended (.error (.defect (.tooFewAttempts provider.attempts)))
    else
      .attempts provider.endpoints.newNonce
        (sealedFor provider.endpoints.newAccount key .publicKey (registration items))
        (provider.welcomed realm key) (provider.attempts.toNat - 1)

theorem follows_register (provider : Provider) (realm : String) (contact : Json) (key : AccountKey) :
    Client.Follows (provider.register realm contact key)
      (provider.registering realm contact key) := by
  rw [register_eq]
  refine (Client.follows_ofExcept _).bind fun items => ?_
  split
  · rename_i few
    simp only [Provider.request, Option.getD_none, if_pos few]
    exact Client.follows_throw _
  · rename_i enough
    exact follows_request (fun _ => follows_sealing) follows_registered (by omega)

/-- What is said of the owner: nothing is sent where this cannot be read. -/
def contents (contact : Json) : Json := registration ((Resource.elements contact).toOption.getD [])

theorem tries_registering (provider : Provider) (realm : String) (contact : Json) (key : AccountKey) :
    (provider.registering realm contact key).Tries provider.endpoints.newNonce
      (sealedFor provider.endpoints.newAccount key .publicKey (contents contact))
      provider.attempts := by
  unfold registering contents
  cases Resource.elements contact with
  | error failure => exact .done _
  | ok items =>
      simp only [Course.bind]
      split
      · exact .done _
      · exact .trying _ (by omega)

theorem keeps_rests_register : Client.Keeps World.Rests (provider.register realm contact key) :=
  fun world => (register_spec provider realm contact key world).1

theorem paired_accountKey (realm : String) (extra : List Rejection) :
    Client.Paired (World.Ahead extra) (World.Ahead extra) Eq (accountKey realm) (accountKey realm) := by
  have tells : Client.Tells (World.Ahead extra) := fun ahead _ _ _ =>
    ⟨ahead.replies, ahead.silence, ahead.calls, ahead.storage, ahead.keySource, ahead.generated⟩
  unfold accountKey
  refine (Client.paired_readEntry fun ahead => by rw [ahead.storage]).follow fun found => ?_
  cases found with
  | some pem =>
      refine (Client.paired_debug tells _ _).follow fun _ => ?_
      cases AccountKey.ofPem pem with
      | error fault => exact Client.paired_throw _
      | ok key => exact Client.paired_pure rfl
  | none =>
      have generates : Client.Paired (World.Ahead extra) (World.Ahead extra) Eq Client.generateKey
          Client.generateKey := by
        refine Client.paired_generateKey fun ahead => ⟨?_, ?_⟩
        · rw [ahead.keySource, ahead.generated]
        · exact ⟨ahead.replies, ahead.silence, ahead.calls, ahead.storage, ahead.keySource,
            congrArg (· + 1) ahead.generated⟩
      refine generates.follow fun secret => ?_
      refine (Client.paired_writeEntry tells fun ahead => ?_).follow fun _ => ?_
      · rw [ahead.storage]
        exact ⟨rfl, rfl, ahead.replies, ahead.silence, ahead.calls, rfl, ahead.keySource,
          ahead.generated⟩
      · exact (Client.paired_info tells _ _).follow fun _ => Client.paired_pure rfl

theorem refusal_of_accountKey {after : World}
    (found : Client.outcome (accountKey realm) world = (.ok key, after)) : key.refusal = none := by
  obtain ⟨-, holds⟩ := accountKey_spec realm world
  rw [found] at holds
  obtain ⟨pem, -, usable⟩ := holds key rfl
  unfold AccountKey.ofPem at usable
  split at usable <;> cases usable
  rfl

theorem account_recovered (provider : Provider) (realm : String) (contact : Json)
    (enough : (attemptsMade world (Client.outcome (provider.accountOfRealm realm contact) world).2 : Int) +
      extra.length ≤ provider.attempts) :
    ∃ key, (∀ account, (Client.outcome (provider.accountOfRealm realm contact) world).1 = .ok account →
        account.key = key) ∧
      Recovered provider.endpoints.newNonce
        (Seals provider.endpoints.newAccount key .publicKey (contents contact)) world
        (Client.outcome (provider.accountOfRealm realm contact) world)
        (Client.outcome (provider.accountOfRealm realm contact) (world.preceded extra)) := by
  obtain ⟨agree, ahead⟩ := paired_accountKey realm extra world _ (world.ahead_preceded extra)
  have silent := (accountKey_spec realm world).1.calls
  rw [accountOfRealm_eq] at enough ⊢
  cases looked : Client.outcome (accountKey realm) world with
  | mk result between =>
      cases lookedToo : Client.outcome (accountKey realm) (world.preceded extra) with
      | mk resultToo betweenToo =>
          rw [looked, lookedToo] at agree ahead
          rw [looked, List.map_nil, List.append_nil] at silent
          obtain rfl := agree.eq
          cases result with
          | error failure =>
              rw [Client.outcome_bind_error looked, Client.outcome_bind_error lookedToo]
              refine ⟨.ofSecret ⟨1, by decide, by decide⟩, by simp, rfl, ahead.storage, ahead.generated,
                [], [], ?_, ?_, by simp⟩
              · rw [List.append_nil, silent]
              · rw [List.append_nil, List.append_nil, ahead.calls, silent]
          | ok key =>
              rw [Client.outcome_bind_ok looked] at enough ⊢
              rw [Client.outcome_bind_ok lookedToo]
              have later : (attemptsMade between (Client.outcome (provider.register realm contact key)
                  between).2 : Int) + extra.length ≤ provider.attempts := by
                rwa [attemptsMade, silent]
              have recovered := recovered_of_follows (follows_register provider realm contact key)
                keeps_rests_register (tries_registering provider realm contact key)
                (refusal_of_accountKey looked) ahead later
              exact ⟨key, (register_spec provider realm contact key between).2.2, recovered.since silent⟩

end Provider

/-- What the next request meets has a nonce. -/
def World.GivesNonce (world : World) : Prop :=
  ∃ answer nonce, world.nextReply = .ok answer ∧ answer.nonce = .ok nonce

namespace Course

variable {course : Course α} {world : World} {newNonce : Json} {failure : Failure}
  {built : String → Except Failure (Json × Bytes)} {finish : Response → Except Failure α}

variable (newNonce finish) in
/-- Where nothing can be built, the first nonce ends all attempts. -/
theorem attempts_unbuilt (fails : ∀ nonce, built nonce = .error failure) (gives : world.GivesNonce)
    (more : Nat) :
    ((attempts newNonce built finish more).play world).1 = .error failure ∧
      (attempts newNonce built finish more).sends world = [.head newNonce] := by
  obtain ⟨answer, nonce, heard, found⟩ := gives
  have ends (next : Reply → Course α) :
      posting built next world.nextReply = ended (.error failure) := by
    simp only [heard, posting, Except.bind, found, fails, bind]
  cases more <;> simp only [attempts, play, sends, ends, and_self]

theorem Tries.unbuilt {allowed : Int} (tries : course.Tries newNonce built allowed)
    (fails : ∀ nonce, built nonce = .error failure) :
    ∃ result calls, (∀ call ∈ calls, call = .head newNonce) ∧
      ∀ world : World, world.GivesNonce →
        (course.play world).1 = result ∧ course.sends world = calls := by
  cases tries with
  | done result => exact ⟨result, [], by simp, fun _ _ => ⟨rfl, rfl⟩⟩
  | trying finish positive =>
      exact ⟨.error failure, [.head newNonce], by simp,
        fun _ gives => attempts_unbuilt newNonce _ fails gives _⟩

end Course

theorem Provider.sealedFor_refused {url content : Json} {key : AccountKey} {sender : Sender}
    {reason : String} (refuses : key.refusal = some reason) (nonce : String) :
    sealedFor url key sender content nonce = .error (.fault (.refusedSignature reason)) := by
  simp only [sealedFor, Envelope.sign, AccountKey.sign, refuses]
  rfl

namespace Account

variable {account : Account} {primary others : Json} {extra : List Rejection} {world : World}

/-- What is ordered: nothing is sent where the further names cannot be read. -/
def contents (primary others : Json) : Json :=
  Resource.Order.request ((primary :: (otherNames others).toOption.getD []).map .dns)

theorem tries_ordering (account : Account) (primary others : Json) :
    (account.ordering primary others).Tries account.provider.endpoints.newNonce
      (Provider.sealedFor account.provider.endpoints.newOrder account.key
        (.account (.str account.url)) (contents primary others))
      account.provider.attempts := by
  unfold ordering contents
  cases otherNames others with
  | error failure => exact .done _
  | ok names =>
      simp only [Course.bind]
      split
      · exact .done _
      · exact .trying _ (by omega)

theorem keeps_rests_order : Client.Keeps World.Rests (account.order primary others) := by
  intro world
  rw [order_eq, Client.outcome_bind, Client.outcome_ofExcept]
  cases otherNames others with
  | error failure => exact World.lasts_rests.refl world
  | ok names =>
      refine Client.keeps_bind World.lasts_rests ?_ (keeps_taken World.lasts_rests account _) world
      exact Provider.keeps_request World.lasts_rests (fun _ _ => ⟨rfl, rfl⟩)
        fun nonce => Provider.keeps_sealing World.lasts_rests nonce

/-- An order whose key does not refuse to sign, or whose first nonce is given either way. -/
theorem order_recovered (account : Account) (primary others : Json)
    (signs : account.key.refusal = none ∨ world.GivesNonce)
    (enough : (attemptsMade world (Client.outcome (account.order primary others) world).2 : Int) +
      extra.length ≤ account.provider.attempts) :
    Recovered account.provider.endpoints.newNonce
      (Provider.Seals account.provider.endpoints.newOrder account.key (.account (.str account.url))
        (contents primary others)) world
      (Client.outcome (account.order primary others) world)
      (Client.outcome (account.order primary others) (world.preceded extra)) := by
  have follows := follows_order account primary others
  have tries := tries_ordering account primary others
  have ahead := world.ahead_preceded extra
  cases refuses : account.key.refusal with
  | none => exact recovered_of_follows follows keeps_rests_order tries refuses ahead enough
  | some reason =>
      have gives : world.GivesNonce := signs.resolve_left (by simp [refuses])
      have givesToo : (world.preceded extra).GivesNonce := by
        cases extra with
        | nil => exact gives
        | cons rejection rest => exact ⟨rejection.given, rejection.nonce, rfl, rejection.isNonce⟩
      obtain ⟨result, calls, heads, alike⟩ := tries.unbuilt (Provider.sealedFor_refused refuses)
      obtain ⟨played, sent⟩ := alike world gives
      obtain ⟨playedToo, sentToo⟩ := alike _ givesToo
      refine ⟨?_, ?_, ?_, [], calls, ?_, ?_, fun call member => .inl (heads call member)⟩
      · rw [(follows _ _ ⟨rfl, rfl, rfl⟩).1, (follows world world ⟨rfl, rfl, rfl⟩).1, played,
          playedToo]
      · rw [(keeps_rests_order _).storage, (keeps_rests_order world).storage, World.preceded]
      · rw [(keeps_rests_order _).generated, (keeps_rests_order world).generated, World.preceded]
      · rw [calls_of_follows follows, sent]
      · rw [calls_of_follows follows, sentToo, World.preceded, List.nil_append]

/-- A key that refuses to sign ends the order at the first nonce, and nothing is posted. -/
theorem order_refused {reason : String} {names : List Json} (refuses : account.key.refusal = some reason)
    (known : otherNames others = .ok names) (allowed : 1 ≤ account.provider.attempts)
    (gives : world.GivesNonce) :
    (Client.outcome (account.order primary others) world).1 = .error (.fault (.refusedSignature reason)) ∧
      (Client.outcome (account.order primary others) world).2.calls =
        world.calls ++ [.head account.provider.endpoints.newNonce] := by
  have follows := follows_order account primary others
  have course : account.ordering primary others = .attempts account.provider.endpoints.newNonce
      (Provider.sealedFor account.provider.endpoints.newOrder account.key
        (.account (.str account.url)) (Resource.Order.request ((primary :: names).map .dns)))
      account.accepted (account.provider.attempts.toNat - 1) := by
    simp only [ordering, known, Course.bind]
    rw [if_neg (by omega)]
  obtain ⟨played, sent⟩ := Course.attempts_unbuilt account.provider.endpoints.newNonce
    account.accepted (Provider.sealedFor_refused refuses) gives
    (account.provider.attempts.toNat - 1)
  rw [(follows world world ⟨rfl, rfl, rfl⟩).1, calls_of_follows follows, course]
  exact ⟨played, by rw [sent]⟩

end Account

theorem Response.rejectsNonce_of_read {answer : Response} {members : List (String × Json)}
    (declined : answer.isOk = false) (read : Json.read answer.body answer.room = .ok (.obj members))
    (found : Assoc.find? "type" members = some (.str ProblemKind.badNonce)) : answer.RejectsNonce := by
  obtain ⟨listed, lists, rfl⟩ := Json.read_eq_obj_iff.mp read
  exact ⟨declined, listed, lists, by rwa [Assoc.find?_ofList] at found⟩

def plainRejection : Rejection where
  given := ⟨200, [("Replay-Nonce", "1")], []⟩
  nonce := "1"
  isNonce := rfl
  answer := ⟨400, [],
    Text.Utf8.encode (Json.write .compact (.obj [("type", .str ProblemKind.badNonce)]))⟩
  rejects := Response.rejectsNonce_of_read rfl
    (Json.read_write Json.Layout.separates_compact (.obj _ (by simp) (by simp [Json.IsReadable.str]))) rfl

/-- Registrations and orders recover from rejected nonces: what comes of them is what would have come
of them without the rejections. An order whose key refuses to sign does so at the first nonce. -/
theorem nonce_recovery :
    (∀ (provider : Provider) (realm : String) (contact : Json) (world : World) (extra : List Rejection),
      let register := provider.accountOfRealm realm contact
      let ran := Client.outcome register world
      (attemptsMade world ran.2 : Int) + extra.length ≤ provider.attempts →
      ∃ key, (∀ account, ran.1 = .ok account → account.key = key) ∧
        Recovered provider.endpoints.newNonce
          (Provider.Seals provider.endpoints.newAccount key .publicKey (Provider.contents contact))
          world ran (Client.outcome register (world.preceded extra))) ∧
    ∀ (account : Account) (primary others : Json) (world : World),
      let order := account.order primary others
      let ran := Client.outcome order world
      let provider := account.provider
      (∀ extra : List Rejection,
        (attemptsMade world ran.2 : Int) + extra.length ≤ provider.attempts →
        account.key.refusal = none ∨ world.GivesNonce →
        Recovered provider.endpoints.newNonce
          (Provider.Seals provider.endpoints.newOrder account.key (.account (.str account.url))
            (Account.contents primary others))
          world ran (Client.outcome order (world.preceded extra))) ∧
      ∀ reason names, account.key.refusal = some reason → Account.otherNames others = .ok names →
        1 ≤ provider.attempts → world.GivesNonce →
        ran.1 = .error (.fault (.refusedSignature reason)) ∧
          ran.2.calls = world.calls ++ [.head provider.endpoints.newNonce] := by
  refine ⟨fun provider realm contact world extra => Provider.account_recovered provider realm contact,
    fun account primary others world => ⟨fun extra enough signs => ?_, fun reason names => ?_⟩⟩
  · exact Account.order_recovered account primary others signs enough
  · exact Account.order_refused

/-- A registration and an order that nobody answers, and an order whose key refuses to sign, with one
rejection in front of each. -/
theorem nonce_recovery_of_unanswered :
    let silence : Failure := .fault (.noResponse "HEAD" "https://acme.test/nonce" "timed out")
    let key : AccountKey := ⟨⟨1, by decide, by decide⟩, none⟩
    let provider : Provider := {
      endpoints := ⟨.str "https://acme.test/nonce", .str "https://acme.test/account",
        .str "https://acme.test/order", .null, .null, .obj []⟩
      attempts := 2 }
    let account : Account :=
      { provider, realm := "foo@bar.com", key, resource := default, url := "https://acme.test/account/1" }
    let world : World := {
      replies := [], silence, calls := [], storage := .inMemory
      keySource := fun _ => key.secret, generated := 0, records := [], clock := .whole 0, transports := [] }
    let register := provider.accountOfRealm "foo@bar.com" (.arr [])
    let order := account.order (.str "example.com") (.arr [])
    let removed : Account := { account with key := ⟨key.secret, some "key removed"⟩ }
    let answered : World := { world with replies := [.ok plainRejection.given] }
    let refused := Client.outcome (removed.order (.str "example.com") (.arr [])) answered
    (Client.outcome register (world.preceded [plainRejection])).1.map Account.url = .error silence ∧
      (Client.outcome order (world.preceded [plainRejection])).1 = .error silence ∧
      refused.1 = .error (.fault (.refusedSignature "key removed")) ∧
      refused.2.calls = [.head (.str "https://acme.test/nonce")] := by
  intro silence key provider account world register order removed answered refused
  obtain ⟨registers, orders⟩ := nonce_recovery
  have few : (1 : Int) + 1 ≤ 2 := by decide
  obtain ⟨_, -, registered⟩ := registers provider "foo@bar.com" (.arr []) world [plainRejection] few
  have ordered := (orders account (.str "example.com") (.arr []) world).1 [plainRejection] few (.inl rfl)
  obtain ⟨told, asked⟩ := (orders removed (.str "example.com") (.arr []) answered).2 _ _ rfl rfl (by decide)
    ⟨_, _, rfl, plainRejection.isNonce⟩
  exact ⟨congrArg (Except.map Account.url) registered.result, ordered.result, told, asked⟩

/-- Where a key refuses to sign and nobody would have answered, a rejection in front changes the
failure. -/
theorem refusal_not_recovered :
    ¬ ∀ (account : Account) (primary others : Json) (world : World) (extra : List Rejection),
      (attemptsMade world (Client.outcome (account.order primary others) world).2 : Int) +
        extra.length ≤ account.provider.attempts →
      (Client.outcome (account.order primary others) (world.preceded extra)).1 =
        (Client.outcome (account.order primary others) world).1 := by
  intro recovers
  let silence : Failure := .fault (.noResponse "HEAD" "https://acme.test/nonce" "timed out")
  let key : AccountKey := ⟨⟨1, by decide, by decide⟩, some "key removed"⟩
  let account : Account := {
    provider := {
      endpoints := ⟨.str "https://acme.test/nonce", .str "https://acme.test/account",
        .str "https://acme.test/order", .null, .null, .obj []⟩
      attempts := 2 }
    realm := "foo@bar.com", key, resource := default, url := "https://acme.test/account/1" }
  let world : World := {
    replies := [], silence, calls := [], storage := .inMemory
    keySource := fun _ => key.secret, generated := 0, records := [], clock := .whole 0, transports := [] }
  have enough : (attemptsMade world (Client.outcome (account.order (.str "example.com") (.arr []))
      world).2 : Int) + [plainRejection].length ≤ account.provider.attempts :=
    (by decide : (1 : Int) + 1 ≤ 2)
  have same := recovers account (.str "example.com") (.arr []) world [plainRejection] enough
  have alone : (Client.outcome (account.order (.str "example.com") (.arr [])) world).1 =
    .error silence := rfl
  have refused : (Client.outcome (account.order (.str "example.com") (.arr []))
      (world.preceded [plainRejection])).1 = .error (.fault (.refusedSignature "key removed")) :=
    (Account.order_refused rfl rfl (by decide) ⟨_, _, rfl, plainRejection.isNonce⟩).1
  rw [alone, refused] at same
  simp [silence] at same

end AcmeClient
