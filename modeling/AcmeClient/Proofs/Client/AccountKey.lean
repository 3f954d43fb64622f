import AcmeClient.Proofs.Client.Sealed
import AcmeClient.Proofs.Key.File
import AcmeClient.Proofs.Storage.Entries

namespace AcmeClient

theorem AccountKey.area_of_ofPem {pem : Bytes} {fault : Fault}
    (unusable : AccountKey.ofPem pem = .error fault) : fault.area = .signing := by
  unfold AccountKey.ofPem at unusable
  split at unusable <;> cases unusable <;> rfl

/-- What both the storage and the supply of keys are after something that leaves them alone. -/
structure World.Rests (world after : World) : Prop where
  storage : after.storage = world.storage
  generated : after.generated = world.generated

theorem World.lasts_rests : Client.Lasts World.Rests where
  refl _ := ⟨rfl, rfl⟩
  trans first second := ⟨second.storage.trans first.storage, second.generated.trans first.generated⟩
  told _ _ _ _ := ⟨rfl, rfl⟩

/-- Every post between two worlds is signed with a key. -/
def SignedWith (key : AccountKey) (world after : World) : Prop :=
  ∃ sent, after.calls = world.calls ++ sent ∧ ∀ url mediaType body,
    .post url mediaType body ∈ sent → ∃ sender nonce content envelope,
      Envelope.sign key sender nonce url content = .ok envelope ∧ body = envelope.bytes

theorem SignedWith.of_calls {key : AccountKey} {world after : World}
    (silent : after.calls = world.calls) : SignedWith key world after :=
  ⟨[], by simp [silent], by simp⟩

namespace Provider

variable {provider : Provider} {realm : String} {contact : Json} {world after : World}
  {key : AccountKey} {pem : Bytes} {failure : Failure} {fault : Fault} {storage : Storage}

theorem accountKey_unreadable (failed : world.storage.get (accountEntry realm) = .error failure) :
    Client.outcome (accountKey realm) world = (.error failure, world) := by
  unfold accountKey
  exact Client.outcome_bind_error (by rw [Client.outcome_readEntry, failed])

theorem accountKey_usable (read : world.storage.get (accountEntry realm) = .ok (some pem))
    (usable : AccountKey.ofPem pem = .ok key) :
    ∃ records, Client.outcome (accountKey realm) world = (.ok key, { world with records }) := by
  unfold accountKey
  rw [Client.outcome_bind_ok (by rw [Client.outcome_readEntry, read])]
  simp only [usable, Client.outcome_bind, Client.outcome_debug, Client.outcome_pure]
  exact ⟨_, rfl⟩

theorem accountKey_unusable (read : world.storage.get (accountEntry realm) = .ok (some pem))
    (unusable : AccountKey.ofPem pem = .error fault) :
    ∃ records, Client.outcome (accountKey realm) world =
      (.error (.fault fault), { world with records }) := by
  unfold accountKey
  rw [Client.outcome_bind_ok (by rw [Client.outcome_readEntry, read])]
  simp only [unusable, Client.outcome_bind, Client.outcome_debug, Client.outcome_throw]
  exact ⟨_, rfl⟩

/-- The key that would be generated next. -/
def nextKey (world : World) : AccountKey := .ofSecret (world.keySource world.generated)

theorem accountKey_unstored (absent : world.storage.get (accountEntry realm) = .ok none)
    (failed : world.storage.put (accountEntry realm) (nextKey world).toPem =
      (storage, .error failure)) :
    Client.outcome (accountKey realm) world =
      (.error failure, { world with storage, generated := world.generated + 1 }) := by
  unfold accountKey
  rw [Client.outcome_bind_ok (by rw [Client.outcome_readEntry, absent])]
  simp only
  rw [Client.outcome_bind_ok (Client.outcome_generateKey world)]
  exact Client.outcome_bind_error (Client.outcome_writeEntry_error failed)

theorem accountKey_stored (absent : world.storage.get (accountEntry realm) = .ok none)
    (stored : world.storage.put (accountEntry realm) (nextKey world).toPem = (storage, .ok ())) :
    ∃ records, Client.outcome (accountKey realm) world =
      (.ok (nextKey world),
        { world with storage, generated := world.generated + 1, records }) := by
  unfold nextKey at stored ⊢
  have storedThen : { world with generated := world.generated + 1 }.storage.put
      (accountEntry realm) (AccountKey.ofSecret (world.keySource world.generated)).toPem =
        (storage, .ok ()) := stored
  obtain ⟨records, written⟩ := Client.outcome_writeEntry_ok storedThen
  unfold accountKey
  rw [Client.outcome_bind_ok (by rw [Client.outcome_readEntry, absent])]
  simp only
  rw [Client.outcome_bind_ok (Client.outcome_generateKey world), Client.outcome_bind_ok written]
  simp only [Client.outcome_bind, Client.outcome_info, Client.outcome_pure]
  exact ⟨_, rfl⟩

/-- What comes of looking up a key, by what is stored for the realm. -/
inductive Looked (realm : String) (world : World) : Except Failure AccountKey × World → Prop
  | unreadable {failure : Failure} :
      world.storage.get (accountEntry realm) = .error failure →
      Looked realm world (.error failure, world)
  | usable {pem : Bytes} {key : AccountKey} {records : List Logging.Record} :
      world.storage.get (accountEntry realm) = .ok (some pem) → AccountKey.ofPem pem = .ok key →
      Looked realm world (.ok key, { world with records })
  | unusable {pem : Bytes} {fault : Fault} {records : List Logging.Record} :
      world.storage.get (accountEntry realm) = .ok (some pem) → AccountKey.ofPem pem = .error fault →
      Looked realm world (.error (.fault fault), { world with records })
  | unstored {storage : Storage} {failure : Failure} :
      world.storage.get (accountEntry realm) = .ok none →
      world.storage.put (accountEntry realm) (nextKey world).toPem = (storage, .error failure) →
      Looked realm world (.error failure, { world with storage, generated := world.generated + 1 })
  | stored {storage : Storage} {records : List Logging.Record} :
      world.storage.get (accountEntry realm) = .ok none →
      world.storage.put (accountEntry realm) (nextKey world).toPem = (storage, .ok ()) →
      Looked realm world
        (.ok (nextKey world), { world with storage, generated := world.generated + 1, records })

theorem accountKey_looked (realm : String) (world : World) :
    Looked realm world (Client.outcome (accountKey realm) world) := by
  cases read : world.storage.get (accountEntry realm) with
  | error failure =>
      rw [accountKey_unreadable read]
      exact .unreadable read
  | ok found =>
      cases found with
      | some pem =>
          cases usable : AccountKey.ofPem pem with
          | error fault =>
              obtain ⟨records, looked⟩ := accountKey_unusable read usable
              rw [looked]
              exact .unusable read usable
          | ok key =>
              obtain ⟨records, looked⟩ := accountKey_usable read usable
              rw [looked]
              exact .usable read usable
      | none =>
          cases put : world.storage.put (accountEntry realm) (nextKey world).toPem with
          | mk storage result =>
              cases result with
              | error failure =>
                  rw [accountKey_unstored read put]
                  exact .unstored read put
              | ok _ =>
                  obtain ⟨records, looked⟩ := accountKey_stored read put
                  rw [looked]
                  exact .stored read put

/-- The lookup of a key sends nothing, and the key is stored when it is over. -/
theorem accountKey_spec (realm : String) (world : World) :
    let ran := Client.outcome (accountKey realm) world
    Silent world ran.2 ∧ ∀ key, ran.1 = .ok key → ∃ pem,
      ran.2.storage.content? (accountEntry realm) = some pem ∧ AccountKey.ofPem pem = .ok key := by
  have looked := accountKey_looked realm world
  generalize Client.outcome (accountKey realm) world = ran at looked
  cases looked with
  | unreadable | unusable | unstored => exact ⟨.silent rfl rfl rfl, by simp⟩
  | @usable pem key records read usable =>
      refine ⟨.silent rfl rfl rfl, fun other same => ?_⟩
      obtain rfl : key = other := by simpa using same
      exact ⟨pem, (Storage.get_ok read).symm, usable⟩
  | stored absent put =>
      refine ⟨.silent rfl rfl rfl, fun other same => ?_⟩
      obtain rfl : nextKey world = other := by simpa using same
      exact ⟨_, Storage.content?_put put, AccountKey.ofPem_toPem _⟩

theorem register_spec (provider : Provider) (realm : String) (contact : Json) (key : AccountKey)
    (world : World) :
    let ran := Client.outcome (provider.register realm contact key) world
    world.Rests ran.2 ∧ SignedWith key world ran.2 ∧
      ∀ account, ran.1 = .ok account → account.key = key := by
  intro ran
  refine ⟨?_, ?_, ?_⟩
  · refine keeps_register World.lasts_rests (fun items _ message => ?_) world
    exact keeps_request World.lasts_rests (fun _ _ => ⟨rfl, rfl⟩)
      fun nonce => keeps_sealing World.lasts_rests nonce
  · obtain ⟨transcript, exchanged, allSealed, -⟩ := register_sends provider realm contact key world
    refine ⟨transcript.map Prod.fst, exchanged.calls, fun url mediaType body member => ?_⟩
    obtain ⟨⟨call, reply⟩, listed, rfl⟩ := List.mem_map.mp member
    obtain ⟨nonce, items, -, rfl, envelope, signed, written⟩ := allSealed.built_of_mem listed
    exact ⟨_, _, _, envelope, signed, written⟩
  · intro account done
    obtain ⟨_, -, -, holds⟩ := register_sends provider realm contact key world
    exact (holds account done).2.1

/-- What a call for the account of a realm does with its key, in every state of the storage. -/
structure KeyLifeCycle (provider : Provider) (realm : String) (contact : Json) (world : World)
    (ran : Except Failure Account × World) : Prop where
  /-- A key that cannot be read ends the call before anything is sent. -/
  unreadable : ∀ failure, world.storage.get (accountEntry realm) = .error failure →
    ran = (.error failure, world) ∧
      (failure.IsStorage ↔ world.storage.isNameable ∨
        world.storage.checkOutage .get .accountPrivateKey ≠ .ok ())
  /-- A stored key that cannot be used is not replaced, and nothing is sent. -/
  unusable : ∀ pem fault, world.storage.get (accountEntry realm) = .ok (some pem) →
    AccountKey.ofPem pem = .error fault →
    ran.1 = .error (.fault fault) ∧ fault.area = .signing ∧ ran.2.calls = world.calls ∧
      world.Rests ran.2
  /-- A stored key that can be used signs whatever is sent. -/
  usable : ∀ pem key, world.storage.get (accountEntry realm) = .ok (some pem) →
    AccountKey.ofPem pem = .ok key → world.Rests ran.2 ∧ SignedWith key world ran.2
  /-- A fresh key that cannot be stored is given up, and nothing is sent. -/
  unstored : ∀ storage failure, world.storage.get (accountEntry realm) = .ok none →
    world.storage.put (accountEntry realm) (nextKey world).toPem = (storage, .error failure) →
    ran.1 = .error failure ∧ failure.IsStorage ∧ ran.2.calls = world.calls ∧
      ran.2.storage = storage ∧ ran.2.generated = world.generated + 1
  /-- A fresh key is stored before anything is sent, and stays stored whatever happens then. -/
  stored : ∀ storage, world.storage.get (accountEntry realm) = .ok none →
    world.storage.put (accountEntry realm) (nextKey world).toPem = (storage, .ok ()) →
    ∃ kept, Client.outcome (accountKey realm) world = (.ok (nextKey world), kept) ∧
      kept.calls = world.calls ∧ kept.storage = storage ∧
      storage.content? (accountEntry realm) = some (nextKey world).toPem ∧
      AccountKey.ofPem (nextKey world).toPem = .ok (nextKey world) ∧
      ran = Client.outcome (provider.register realm contact (nextKey world)) kept ∧
      ran.2.storage = storage ∧ ran.2.generated = world.generated + 1 ∧
      SignedWith (nextKey world) world ran.2

theorem keyLifeCycle (provider : Provider) (realm : String) (contact : Json) (world : World) :
    KeyLifeCycle provider realm contact world
      (Client.outcome (provider.accountOfRealm realm contact) world) where
  unreadable failure failed := by
    rw [accountOfRealm_eq, Client.outcome_bind_error (accountKey_unreadable failed)]
    exact ⟨rfl, Storage.get_error_isStorage_iff failed⟩
  unusable pem fault read unusable := by
    obtain ⟨records, looked⟩ := accountKey_unusable read unusable
    rw [accountOfRealm_eq, Client.outcome_bind_error looked]
    exact ⟨rfl, AccountKey.area_of_ofPem unusable, rfl, rfl, rfl⟩
  usable pem key read usable := by
    obtain ⟨records, looked⟩ := accountKey_usable read usable
    obtain ⟨rests, signed, -⟩ :=
      register_spec provider realm contact key { world with records }
    rw [accountOfRealm_eq, Client.outcome_bind_ok looked]
    exact ⟨⟨rests.storage, rests.generated⟩, signed⟩
  unstored storage failure absent failed := by
    rw [accountOfRealm_eq, Client.outcome_bind_error (accountKey_unstored absent failed)]
    exact ⟨rfl, Storage.put_error_isStorage (Storage.isNameable_of_get_ok absent) failed, rfl, rfl,
      rfl⟩
  stored storage absent stored := by
    obtain ⟨records, looked⟩ := accountKey_stored absent stored
    obtain ⟨rests, signed, -⟩ := register_spec provider realm contact (nextKey world)
      { world with storage, generated := world.generated + 1, records }
    rw [accountOfRealm_eq, Client.outcome_bind_ok looked]
    refine ⟨_, looked, rfl, rfl, ?_, AccountKey.ofPem_toPem _, rfl, rests.storage, rests.generated,
      signed⟩
    exact Storage.content?_put stored

/-- A call for the account of a realm, with the world that it is made in. -/
structure KeyCall where
  provider : Provider
  contact : Json
  world : World

namespace KeyCall

variable {call : KeyCall}

def ran (call : KeyCall) (realm : String) : Except Failure Account × World :=
  Client.outcome (call.provider.accountOfRealm realm call.contact) call.world

/-- Whether a call stores a fresh key. -/
def Stores (call : KeyCall) (realm : String) : Prop :=
  call.world.storage.get (accountEntry realm) = .ok none ∧
    ∃ storage, call.world.storage.put (accountEntry realm) (nextKey call.world).toPem =
      (storage, .ok ())

/-- What is stored for the realm when a call is made, and when it is over. -/
def keyBefore (call : KeyCall) (realm : String) : Option Bytes :=
  call.world.storage.content? (accountEntry realm)

def keyAfter (call : KeyCall) (realm : String) : Option Bytes :=
  (call.ran realm).2.storage.content? (accountEntry realm)

/-- A call gives up without sending anything, or signs with the stored key, or stores a fresh one. -/
inductive Course (realm : String) (call : KeyCall) : Prop
  | givenUp (failure : Failure) :
      (call.ran realm).1 = .error failure → (call.ran realm).2.calls = call.world.calls →
      ¬ call.Stores realm →
      (∀ pem, call.keyBefore realm = some pem → call.keyAfter realm = some pem) →
      Course realm call
  | signed (pem : Bytes) (key : AccountKey) :
      call.keyBefore realm = some pem ∧ ¬ call.Stores realm ∨
        call.keyBefore realm = none ∧ call.Stores realm ∧ key = nextKey call.world →
      call.keyAfter realm = some pem → AccountKey.ofPem pem = .ok key →
      SignedWith key call.world (call.ran realm).2 →
      (∀ account, (call.ran realm).1 = .ok account → account.key = key) →
      Course realm call

theorem course (realm : String) (call : KeyCall) : Course realm call := by
  have cycle := keyLifeCycle call.provider realm call.contact call.world
  have looked := accountKey_looked realm call.world
  generalize found : Client.outcome (accountKey realm) call.world = result at looked
  -- A call stores only where nothing is stored.
  have noStore {pem : Option Bytes} (read : call.world.storage.get (accountEntry realm) = .ok pem)
      (present : pem ≠ none) : ¬ call.Stores realm := by
    rintro ⟨absent, -⟩
    rw [read, Except.ok.injEq] at absent
    exact present absent
  cases looked with
  | unreadable failed =>
      obtain ⟨ran, -⟩ := cycle.unreadable _ failed
      refine .givenUp _ (by rw [KeyCall.ran, ran]) (by rw [KeyCall.ran, ran]) ?_ ?_
      · rintro ⟨absent, -⟩
        rw [failed] at absent
        contradiction
      · intro pem before
        rwa [keyAfter, KeyCall.ran, ran]
  | unusable read unusable =>
      obtain ⟨failed, -, silent, rests⟩ := cycle.unusable _ _ read unusable
      refine .givenUp _ failed silent (noStore read (by simp)) fun pem before => ?_
      rwa [keyAfter, KeyCall.ran, rests.storage]
  | unstored absent put =>
      obtain ⟨failed, -, silent, -⟩ := cycle.unstored _ _ absent put
      refine .givenUp _ failed silent ?_ fun pem before => ?_
      · rintro ⟨-, other, stored⟩
        rw [put] at stored
        simp at stored
      · rw [keyBefore, ← Storage.get_ok absent] at before
        contradiction
  | usable read usable =>
      obtain ⟨rests, signed⟩ := cycle.usable _ _ read usable
      have before : call.keyBefore realm = some _ := (Storage.get_ok read).symm
      refine .signed _ _ (.inl ⟨before, noStore read (by simp)⟩) ?_ usable signed fun account done => ?_
      · rwa [keyAfter, KeyCall.ran, rests.storage]
      · rw [KeyCall.ran, accountOfRealm_eq, Client.outcome_bind_ok found] at done
        exact (register_spec _ _ _ _ _).2.2 account done
  | stored absent put =>
      obtain ⟨kept, -, -, -, content, usable, ran, storage, -, signed⟩ := cycle.stored _ absent put
      have before : call.keyBefore realm = none := (Storage.get_ok absent).symm
      refine .signed _ _ (.inr ⟨before, ⟨absent, _, put⟩, rfl⟩) ?_ usable signed fun account done => ?_
      · rw [keyAfter, KeyCall.ran, storage, content]
      · rw [KeyCall.ran, ran] at done
        exact (register_spec _ _ _ _ _).2.2 account done

theorem keyAfter_of_keyBefore {pem : Bytes} {realm : String}
    (stored : call.keyBefore realm = some pem) : call.keyAfter realm = some pem := by
  cases call.course realm with
  | givenUp failure failed silent noStore stays => exact stays pem stored
  | signed other key origin after usable signs holds =>
      obtain ⟨before, -⟩ | ⟨before, -⟩ := origin
      · rwa [before, ← after] at stored
      · rw [before] at stored
        contradiction

end KeyCall

/-- Calls for one realm, between which nobody else changes the realm's entry. -/
structure KeyRun (realm : String) where
  calls : List KeyCall
  undisturbed : ∀ i (inside : i + 1 < calls.length),
    calls[i + 1].keyBefore realm = calls[i].keyAfter realm

namespace KeyRun

variable {realm : String} {run : KeyRun realm} {i j : Nat}

theorem keyAfter_of_le (inside : j < run.calls.length) (order : i ≤ j)
    (stored : run.calls[i].keyAfter realm = some pem) :
    run.calls[j].keyAfter realm = some pem := by
  induction j with
  | zero =>
      obtain rfl : i = 0 := by omega
      exact stored
  | succ j ih =>
      by_cases last : i = j + 1
      · subst last
        exact stored
      · apply KeyCall.keyAfter_of_keyBefore
        rw [run.undisturbed j inside]
        exact ih (by omega) (by omega) stored

theorem keyAfter_unique {other : Bytes} (inside : i < run.calls.length)
    (insideOther : j < run.calls.length) (stored : run.calls[i].keyAfter realm = some pem)
    (storedOther : run.calls[j].keyAfter realm = some other) : pem = other := by
  by_cases order : i ≤ j
  · have kept := keyAfter_of_le insideOther order stored
    rwa [storedOther, Option.some.injEq, eq_comm] at kept
  · have kept := keyAfter_of_le inside (by omega) storedOther
    rwa [stored, Option.some.injEq] at kept

theorem not_stores_of_lt (inside : j < run.calls.length) (order : i < j)
    (stores : run.calls[i].Stores realm) : ¬ run.calls[j].Stores realm := by
  obtain ⟨j, rfl⟩ : ∃ before, j = before + 1 := ⟨j - 1, by omega⟩
  have stored : ∃ pem, run.calls[i].keyAfter realm = some pem := by
    cases run.calls[i].course realm with
    | givenUp failure failed silent noStore stays => exact absurd stores noStore
    | signed pem key origin after usable signs holds => exact ⟨pem, after⟩
  obtain ⟨pem, stored⟩ := stored
  have before : run.calls[j + 1].keyBefore realm = some pem := by
    rw [run.undisturbed j inside]
    exact keyAfter_of_le (by omega) (by omega) stored
  rintro ⟨absent, -⟩
  have none := Storage.get_ok absent
  rw [KeyCall.keyBefore, ← none] at before
  contradiction

end KeyRun

/-- One key at most is stored, and it signs all that is sent. -/
structure KeyRun.OneKey {realm : String} (run : KeyRun realm) (key : AccountKey) : Prop where
  storedOnce : ∀ i j (inside : i < run.calls.length) (insideOther : j < run.calls.length),
    run.calls[i].Stores realm → run.calls[j].Stores realm → i = j
  stored : ∀ call ∈ run.calls, call.Stores realm → nextKey call.world = key
  signed : ∀ call ∈ run.calls, SignedWith key call.world (call.ran realm).2
  held : ∀ call ∈ run.calls, ∀ account, (call.ran realm).1 = .ok account → account.key = key

theorem account_key_life_cycle (realm : String) :
    (∀ (provider : Provider) (contact : Json) (world : World),
      KeyLifeCycle provider realm contact world
        (Client.outcome (provider.accountOfRealm realm contact) world)) ∧
    ∀ run : KeyRun realm, ∃ key, run.OneKey key := by
  refine ⟨fun provider contact world => keyLifeCycle provider realm contact world, fun run => ?_⟩
  -- The key is the one that is stored in the end, if it is one that can be used.
  have chosen : ∃ key, ∀ call ∈ run.calls, ∀ pem other, call.keyAfter realm = some pem →
      AccountKey.ofPem pem = .ok other → other = key := by
    by_cases some : ∃ call ∈ run.calls, ∃ pem key, call.keyAfter realm = some pem ∧
        AccountKey.ofPem pem = .ok key
    · obtain ⟨call, member, pem, key, stored, usable⟩ := some
      refine ⟨key, fun later listed otherPem other storedOther usableOther => ?_⟩
      obtain ⟨i, inside, rfl⟩ := List.getElem_of_mem member
      obtain ⟨j, insideOther, rfl⟩ := List.getElem_of_mem listed
      rw [← KeyRun.keyAfter_unique inside insideOther stored storedOther, usable,
        Except.ok.injEq] at usableOther
      exact usableOther.symm
    · refine ⟨.ofSecret ⟨1, by decide, by decide⟩, fun call member pem key stored usable => ?_⟩
      exact absurd ⟨call, member, pem, key, stored, usable⟩ some
  obtain ⟨key, unique⟩ := chosen
  refine ⟨key, ⟨?_, ?_, ?_, ?_⟩⟩
  · intro i j inside insideOther stores storesOther
    obtain before | rfl | behind := Nat.lt_trichotomy i j
    · exact absurd storesOther (KeyRun.not_stores_of_lt insideOther before stores)
    · rfl
    · exact absurd stores (KeyRun.not_stores_of_lt inside behind storesOther)
  · intro call member stores
    cases call.course realm with
    | givenUp failure failed silent noStore stays => exact absurd stores noStore
    | signed pem other origin after usable signs holds =>
        obtain ⟨-, noStore⟩ | ⟨-, -, rfl⟩ := origin
        · exact absurd stores noStore
        · exact unique call member pem _ after usable
  · intro call member
    cases call.course realm with
    | givenUp failure failed silent noStore stays => exact .of_calls silent
    | signed pem other origin after usable signs holds =>
        rwa [unique call member pem other after usable] at signs
  · intro call member account done
    cases call.course realm with
    | givenUp failure failed silent noStore stays =>
        rw [failed] at done
        contradiction
    | signed pem other origin after usable signs holds =>
        rw [holds account done, unique call member pem other after usable]

/-- A directory whose path holds a null cannot be named, and looking for a key in it fails in a way
that is not documented. -/
theorem undocumented_key_failure :
    ¬ ∀ (provider : Provider) (realm : String) (contact : Json) (world : World) (failure : Failure),
      world.storage.get (accountEntry realm) = .error failure →
      ∃ fault : Fault, (Client.outcome (provider.accountOfRealm realm contact) world).1 =
        .error (.fault fault) ∧ fault.area = .storage := by
  intro documented
  let world : World := {
    replies := [], calls := []
    silence := .fault (.noResponse "HEAD" "https://acme.test/nonce" "timed out")
    storage := ⟨.directory ⟨"", ["a\x00b"]⟩, .empty, []⟩
    keySource := fun _ => ⟨1, by decide, by decide⟩
    generated := 0, records := [], clock := .whole 0, transports := [] }
  have unnameable : Location.hasNull ⟨"", ["a\x00b"]⟩ = true := by decide
  have failed : world.storage.get (accountEntry "foo@bar.com") = .error (.defect .nullInPath) := by
    rw [Storage.get_directory (Storage.checkOutage_nil _ _), if_pos unnameable]
  obtain ⟨fault, ran, -⟩ := documented default "foo@bar.com" .null world _ failed
  rw [((keyLifeCycle _ _ _ _).unreadable _ failed).1] at ran
  simp at ran

end Provider

end AcmeClient
