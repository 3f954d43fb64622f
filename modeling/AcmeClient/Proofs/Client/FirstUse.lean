import AcmeClient.Proofs.Client.AccountKey
import Mathlib.Logic.Function.Basic

/-!
Calls for the account of one realm that are made at the same time, on a storage that they share. A call
looks for the realm's key, settles on one, and registers; between any two of these turns the others may
take theirs. The calls keep one key exactly if no two of them store keys of their own.
-/

namespace AcmeClient

namespace Provider

variable {realm : String} {world : World} {storage : Storage} {failure : Failure} {fault : Fault}
  {pem : Bytes} {key : AccountKey}

/-- The key of a realm, by what its entry was when it was read. -/
def keyFrom (realm : String) (found : Option Bytes) : Client AccountKey := do
  let entry := accountEntry realm
  match found with
  | some pem =>
    Client.debug "acmelib.directory" s!"Read account key: {entry.text}"
    match AccountKey.ofPem pem with
    | .ok key => return key
    | .error fault => throw (.fault fault)
  | none =>
    let key := AccountKey.ofSecret (← Client.generateKey)
    Client.writeEntry entry key.toPem
    let shown := (Redaction.redact (.ofJson key.publicJson)).display
    Client.info "acmelib.directory"
      s!"Created new account key {entry.text}: {String.ofList shown}"
    return key

theorem accountKey_eq (realm : String) :
    accountKey realm = Client.readEntry (accountEntry realm) >>= keyFrom realm := rfl

theorem keyFrom_usable (usable : AccountKey.ofPem pem = .ok key) :
    ∃ records, Client.outcome (keyFrom realm (some pem)) world = (.ok key, { world with records }) := by
  simp only [keyFrom, usable, Client.outcome_bind, Client.outcome_debug, Client.outcome_pure]
  exact ⟨_, rfl⟩

theorem keyFrom_unusable (unusable : AccountKey.ofPem pem = .error fault) :
    ∃ records, Client.outcome (keyFrom realm (some pem)) world =
      (.error (.fault fault), { world with records }) := by
  simp only [keyFrom, unusable, Client.outcome_bind, Client.outcome_debug, Client.outcome_throw]
  exact ⟨_, rfl⟩

variable (world) in
theorem keyFrom_unstored (failed : world.storage.put (accountEntry realm) (nextKey world).toPem =
      (storage, .error failure)) :
    Client.outcome (keyFrom realm none) world =
      (.error failure, { world with storage, generated := world.generated + 1 }) := by
  unfold keyFrom
  rw [Client.outcome_bind_ok (Client.outcome_generateKey world)]
  exact Client.outcome_bind_error (Client.outcome_writeEntry_error failed)

variable (world) in
theorem keyFrom_stored (stored : world.storage.put (accountEntry realm) (nextKey world).toPem =
      (storage, .ok ())) :
    ∃ records, Client.outcome (keyFrom realm none) world =
      (.ok (nextKey world), { world with storage, generated := world.generated + 1, records }) := by
  unfold nextKey at stored ⊢
  have storedThen : { world with generated := world.generated + 1 }.storage.put
      (accountEntry realm) (AccountKey.ofSecret (world.keySource world.generated)).toPem =
        (storage, .ok ()) := stored
  obtain ⟨records, written⟩ := Client.outcome_writeEntry_ok storedThen
  unfold keyFrom
  rw [Client.outcome_bind_ok (Client.outcome_generateKey world), Client.outcome_bind_ok written]
  simp only [Client.outcome_bind, Client.outcome_info, Client.outcome_pure]
  exact ⟨_, rfl⟩

end Provider

/-- Where a call stands with the key of its realm: what the entry was when it read it, the key that it
has settled on, and what came of registering. -/
inductive KeyStage
  | starting
  | looked (found : Option Bytes) (world : World)
  | settled (found : Option Bytes) (key : AccountKey) (world : World)
  | ended (found : Option Bytes) (key : AccountKey) (ran : Except Failure Account × World)
  | failed (failure : Failure) (world : World)

namespace KeyStage

open Provider

variable {realm : String} {call : KeyCall} {storage after : Storage} {stage next : KeyStage}

/-- What a call found in the realm's entry, once it has read it. -/
def found? : KeyStage → Option (Option Bytes)
  | looked found _ | settled found _ _ | ended found _ _ => some found
  | starting | failed _ _ => none

def key? : KeyStage → Option AccountKey
  | settled _ key _ | ended _ key _ => some key
  | starting | looked _ _ | failed _ _ => none

/-- The account that a call has returned. -/
def account? : KeyStage → Option Account
  | ended _ _ (.ok account, _) => some account
  | _ => none

/-- A call that found no key has stored one of its own. -/
def HasStored (stage : KeyStage) : Prop := stage.found? = some none ∧ stage.key?.isSome

/-- What a call does next, on the storage as it is then. Registering does not touch the storage. -/
def advance (realm : String) (call : KeyCall) (storage : Storage) : KeyStage → KeyStage × Storage
  | starting =>
    match Client.outcome (Client.readEntry (accountEntry realm)) { call.world with storage } with
    | (.ok found, after) => (looked found after, after.storage)
    | (.error failure, after) => (failed failure after, after.storage)
  | looked found world =>
    match Client.outcome (keyFrom realm found) { world with storage } with
    | (.ok key, after) => (settled found key after, after.storage)
    | (.error failure, after) => (failed failure after, after.storage)
  | settled found key world =>
    let ran := Client.outcome (call.provider.register realm call.contact key) { world with storage }
    (ended found key ran, ran.2.storage)
  | ended found key ran => (ended found key ran, storage)
  | failed failure world => (failed failure world, storage)

/-- All that a turn can be. -/
inductive Advances (realm : String) (call : KeyCall) : Storage → KeyStage → Storage → KeyStage → Prop
  | unread {storage : Storage} {failure : Failure} :
      Advances realm call storage starting storage (failed failure { call.world with storage })
  | looks {storage : Storage} {found : Option Bytes} :
      storage.get (accountEntry realm) = .ok found →
      Advances realm call storage starting storage (looked found { call.world with storage })
  | unusable {storage : Storage} {pem : Bytes} {world : World} {fault : Fault}
      {records : List Logging.Record} :
      AccountKey.ofPem pem = .error fault →
      Advances realm call storage (looked (some pem) world) storage
        (failed (.fault fault) { world with storage, records })
  | uses {storage : Storage} {pem : Bytes} {world : World} {key : AccountKey}
      {records : List Logging.Record} :
      AccountKey.ofPem pem = .ok key →
      Advances realm call storage (looked (some pem) world) storage
        (settled (some pem) key { world with storage, records })
  | unstored {storage after : Storage} {world : World} {failure : Failure} :
      storage.put (accountEntry realm) (nextKey world).toPem = (after, .error failure) →
      Advances realm call storage (looked none world) after
        (failed failure { world with storage := after, generated := world.generated + 1 })
  | stores {storage after : Storage} {world : World} {records : List Logging.Record} :
      storage.put (accountEntry realm) (nextKey world).toPem = (after, .ok ()) →
      Advances realm call storage (looked none world) after
        (settled none (nextKey world)
          { world with storage := after, generated := world.generated + 1, records })
  | registers {storage : Storage} {found : Option Bytes} {key : AccountKey} {world : World}
      {ran : Except Failure Account × World} :
      SignedWith key world ran.2 → (∀ account, ran.1 = .ok account → account.key = key) →
      Advances realm call storage (settled found key world) storage (ended found key ran)
  | rests {storage : Storage} {stage : KeyStage} : Advances realm call storage stage storage stage

theorem advances (realm : String) (call : KeyCall) (storage : Storage) (stage : KeyStage) :
    Advances realm call storage stage (stage.advance realm call storage).2
      (stage.advance realm call storage).1 := by
  cases stage with
  | starting =>
      rw [advance, Client.outcome_readEntry]
      cases read : storage.get (accountEntry realm) with
      | error failure => exact .unread
      | ok found => exact .looks read
  | looked found world =>
      rw [advance]
      cases found with
      | some pem =>
          cases usable : AccountKey.ofPem pem with
          | error fault =>
              obtain ⟨records, ended⟩ := keyFrom_unusable usable
              rw [ended]
              exact .unusable usable
          | ok key =>
              obtain ⟨records, ended⟩ := keyFrom_usable usable
              rw [ended]
              exact .uses usable
      | none =>
          cases put : storage.put (accountEntry realm) (nextKey world).toPem with
          | mk after result =>
              cases result with
              | error failure =>
                  rw [keyFrom_unstored { world with storage } put]
                  exact .unstored put
              | ok _ =>
                  obtain ⟨records, ended⟩ := keyFrom_stored { world with storage } put
                  rw [ended]
                  exact .stores put
  | settled found key world =>
      obtain ⟨rests, signed, holds⟩ :=
        register_spec call.provider realm call.contact key { world with storage }
      rw [advance]
      dsimp only
      rw [rests.storage]
      exact .registers signed holds
  | ended | failed => exact .rests

/-- Three turns in a row are the call itself. -/
theorem advance_alone (realm : String) (call : KeyCall) (storage : Storage) :
    let first := starting.advance realm call storage
    let second := first.1.advance realm call first.2
    let third := second.1.advance realm call second.2
    let ran := Client.outcome (call.provider.accountOfRealm realm call.contact)
      { call.world with storage }
    third.2 = ran.2.storage ∧
      ((∃ found key, third.1 = ended found key ran) ∨
        ∃ failure, third.1 = failed failure ran.2 ∧ ran.1 = .error failure) := by
  rw [accountOfRealm_eq, accountKey_eq, bind_assoc, Client.outcome_bind, Client.outcome_readEntry]
  cases read : storage.get (accountEntry realm) with
  | error failure =>
      simp only [advance, Client.outcome_readEntry, read]
      exact ⟨trivial, .inr ⟨failure, rfl, rfl⟩⟩
  | ok found =>
      simp only [Client.outcome_bind]
      cases settles : Client.outcome (keyFrom realm found) { call.world with storage } with
      | mk result after =>
          cases result with
          | error failure =>
              simp only [advance, Client.outcome_readEntry, read, settles]
              exact ⟨trivial, .inr ⟨failure, rfl, rfl⟩⟩
          | ok key =>
              simp only [advance, Client.outcome_readEntry, read, settles]
              exact ⟨trivial, .inl ⟨found, key, rfl⟩⟩

section Turns

variable (advances : Advances realm call storage stage after next)
include advances

theorem Advances.hasStored (stored : stage.HasStored) : next.HasStored := by
  cases advances with
  | unread | looks | unusable | uses | unstored | stores => simp [HasStored, key?] at stored
  | registers | rests => exact stored

/-- What the storage has for the realm never goes away. -/
theorem Advances.kept (present : storage.content? (accountEntry realm) ≠ none) :
    after.content? (accountEntry realm) ≠ none := by
  cases advances with
  | unread | looks | unusable | uses | registers | rests => exact present
  | stores put => simp [Storage.content?_put put]
  | unstored put =>
      obtain ⟨opens, same⟩ := Storage.put_error put
      unfold Storage.content? at present ⊢
      split at present
      · rename_i opened
        rwa [if_pos (opens opened), same]
      · contradiction

/-- A call that has not looked yet will find what the storage has for the realm. -/
theorem Advances.finds (present : storage.content? (accountEntry realm) ≠ none)
    (late : stage.found? ≠ some none) : next.found? ≠ some none := by
  cases advances with
  | unread | unusable | unstored => simp [found?]
  | looks read =>
      rw [Storage.get_ok read]
      simpa [found?] using present
  | uses | stores | registers | rests => exact late

end Turns

/-- A call that found a key uses this one, which another call has stored, and else one of its own. -/
def Settled (call : KeyCall) (known : Bytes → Prop) : Option Bytes → AccountKey → Prop
  | none, key => key = nextKey call.world
  | some pem, key => known pem ∧ AccountKey.ofPem pem = .ok key

/-- Nothing is sent before the key is settled on, and then all is signed with it. -/
def Sound (call : KeyCall) (known : Bytes → Prop) : KeyStage → Prop
  | starting => True
  | looked found world =>
    (∃ storage, world = { call.world with storage }) ∧ ∀ pem, found = some pem → known pem
  | settled found key world => Settled call known found key ∧ world.calls = call.world.calls
  | ended found key ran =>
    Settled call known found key ∧ SignedWith key call.world ran.2 ∧
      ∀ account, ran.1 = .ok account → account.key = key
  | failed _ world => world.calls = call.world.calls

section Soundness

variable {known wider : Bytes → Prop} {found : Option Bytes} {key : AccountKey}

theorem Settled.mono (wide : ∀ pem, known pem → wider pem) (holds : Settled call known found key) :
    Settled call wider found key := by
  cases found with
  | none => exact holds
  | some pem => exact ⟨wide pem holds.1, holds.2⟩

theorem Sound.mono (wide : ∀ pem, known pem → wider pem) (sound : Sound call known stage) :
    Sound call wider stage := by
  cases stage with
  | starting => trivial
  | looked found world => exact ⟨sound.1, fun pem same => wide pem (sound.2 pem same)⟩
  | settled found key world => exact ⟨sound.1.mono wide, sound.2⟩
  | ended found key ran => exact ⟨sound.1.mono wide, sound.2⟩
  | failed failure world => exact sound

theorem Sound.settled (sound : Sound call known stage) (held : stage.key? = some key) :
    ∃ found, stage.found? = some found ∧ Settled call known found key := by
  cases stage with
  | starting | looked | failed => simp [key?] at held
  | settled found other world =>
      obtain rfl : other = key := Option.some.inj held
      exact ⟨found, rfl, sound.1⟩
  | ended found other ran =>
      obtain rfl : other = key := Option.some.inj held
      exact ⟨found, rfl, sound.1⟩

theorem Sound.advance (sound : Sound call known stage)
    (advances : Advances realm call storage stage after next)
    (stored : ∀ pem, storage.held? (accountEntry realm) = some pem → known pem) :
    Sound call known next := by
  cases advances with
  | unread => rfl
  | looks read =>
      refine ⟨⟨_, rfl⟩, fun pem found => stored pem ?_⟩
      have present := (Storage.get_ok read).symm.trans found
      unfold Storage.content? at present
      split at present
      · exact present
      · contradiction
  | unusable unusable =>
      obtain ⟨⟨_, rfl⟩, -⟩ := sound
      rfl
  | uses usable =>
      obtain ⟨⟨_, rfl⟩, listed⟩ := sound
      exact ⟨⟨listed _ rfl, usable⟩, rfl⟩
  | unstored =>
      obtain ⟨⟨_, rfl⟩, -⟩ := sound
      rfl
  | stores =>
      obtain ⟨⟨_, rfl⟩, -⟩ := sound
      exact ⟨rfl, rfl⟩
  | registers signed holds =>
      obtain ⟨settled, silent⟩ := sound
      refine ⟨settled, ?_, holds⟩
      obtain ⟨sent, calls, all⟩ := signed
      exact ⟨sent, by rw [calls, silent], all⟩
  | rests => exact sound

theorem Advances.present (advances : Advances realm call storage stage after next)
    (stored : next.HasStored) :
    stage.HasStored ∨ after.content? (accountEntry realm) ≠ none := by
  cases advances with
  | unread | looks | unusable | uses | unstored => simp [HasStored, found?, key?] at stored
  | stores put => exact .inr (by simp [Storage.content?_put put])
  | registers | rests => exact .inl stored

/-- The storage has for the realm what it had, or else the key of the call. -/
theorem Sound.held (sound : Sound call known stage)
    (advances : Advances realm call storage stage after next) {pem : Bytes}
    (present : after.held? (accountEntry realm) = some pem) :
    storage.held? (accountEntry realm) = some pem ∨
      next.HasStored ∧ pem = (nextKey call.world).toPem := by
  cases advances with
  | unread | looks | unusable | uses | registers | rests => exact .inl present
  | unstored put =>
      rw [(Storage.put_error put).2] at present
      exact .inl present
  | stores put =>
      obtain ⟨⟨_, rfl⟩, -⟩ := sound
      have content := Storage.content?_put put
      rw [Storage.content?, if_pos (Storage.put_ok put).1, present, Option.some.injEq] at content
      exact .inr ⟨⟨rfl, rfl⟩, content⟩

end Soundness

end KeyStage

/-- A storage, and where each of the calls that share it stands. -/
structure KeyRace (ι : Type) where
  storage : Storage
  stages : ι → KeyStage

namespace KeyRace

open Provider

variable {ι : Type} {realm : String} {calls : ι → KeyCall} {race : KeyRace ι} {caller other : ι}

/-- These bytes are the key that some call has stored. -/
def Known (calls : ι → KeyCall) (race : KeyRace ι) (pem : Bytes) : Prop :=
  ∃ caller, (race.stages caller).HasStored ∧ pem = (nextKey (calls caller).world).toPem

structure Sound (realm : String) (calls : ι → KeyCall) (race : KeyRace ι) : Prop where
  held : ∀ pem, race.storage.held? (accountEntry realm) = some pem → race.Known calls pem
  kept : ∀ caller, (race.stages caller).HasStored →
    race.storage.content? (accountEntry realm) ≠ none
  stages : ∀ caller, (race.stages caller).Sound (calls caller) (race.Known calls)

def start (storage : Storage) : KeyRace ι := ⟨storage, fun _ => .starting⟩

theorem sound_start {storage : Storage} (absent : storage.held? (accountEntry realm) = none) :
    Sound realm calls (start storage) where
  held pem present := by
    rw [start, absent] at present
    contradiction
  kept caller stored := by simp [start, KeyStage.HasStored, KeyStage.found?] at stored
  stages caller := trivial

variable [DecidableEq ι]

/-- A call takes its turn. -/
def turn (realm : String) (calls : ι → KeyCall) (race : KeyRace ι) (caller : ι) : KeyRace ι :=
  let (stage, storage) := (race.stages caller).advance realm (calls caller) race.storage
  ⟨storage, Function.update race.stages caller stage⟩

/-- The calls take turns in this order. -/
def run (realm : String) (calls : ι → KeyCall) (race : KeyRace ι) (schedule : List ι) : KeyRace ι :=
  schedule.foldl (turn realm calls) race

theorem run_append (race : KeyRace ι) (first second : List ι) :
    race.run realm calls (first ++ second) = (race.run realm calls first).run realm calls second :=
  List.foldl_append

variable (realm calls) in
theorem turn_self (race : KeyRace ι) (caller : ι) :
    KeyStage.Advances realm (calls caller) race.storage (race.stages caller)
      (race.turn realm calls caller).storage ((race.turn realm calls caller).stages caller) := by
  have advances := KeyStage.advances realm (calls caller) race.storage (race.stages caller)
  simpa only [turn, Function.update_self] using advances

theorem turn_other (race : KeyRace ι) (different : other ≠ caller) :
    (race.turn realm calls caller).stages other = race.stages other :=
  Function.update_of_ne different ..

theorem hasStored_turn (stored : (race.stages other).HasStored) :
    ((race.turn realm calls caller).stages other).HasStored := by
  by_cases same : other = caller
  · subst same
    exact (turn_self realm calls race other).hasStored stored
  · rwa [turn_other race same]

theorem known_turn {pem : Bytes} (known : race.Known calls pem) :
    (race.turn realm calls caller).Known calls pem := by
  obtain ⟨holder, stored, rfl⟩ := known
  exact ⟨holder, hasStored_turn stored, rfl⟩

theorem Sound.turn (sound : Sound realm calls race) (caller : ι) :
    Sound realm calls (race.turn realm calls caller) where
  held pem present := by
    obtain before | ⟨stored, rfl⟩ := (sound.stages caller).held (turn_self realm calls race caller) present
    · exact known_turn (sound.held pem before)
    · exact ⟨caller, stored, rfl⟩
  kept other stored := by
    have advances := turn_self realm calls race caller
    by_cases same : other = caller
    · subst same
      obtain before | present := advances.present stored
      · exact advances.kept (sound.kept other before)
      · exact present
    · rw [turn_other race same] at stored
      exact advances.kept (sound.kept other stored)
  stages other := by
    have wide (pem : Bytes) (known : race.Known calls pem) :
        (race.turn realm calls caller).Known calls pem := known_turn known
    by_cases same : other = caller
    · subst same
      exact ((sound.stages other).advance (turn_self realm calls race other) sound.held).mono wide
    · rw [turn_other race same]
      exact (sound.stages other).mono wide

theorem Sound.run (sound : Sound realm calls race) (schedule : List ι) :
    Sound realm calls (race.run realm calls schedule) := by
  induction schedule generalizing race with
  | nil => exact sound
  | cons caller rest ih => exact ih (sound.turn caller)

/-- Once the realm has a key, a call that has not looked yet never stores one of its own. -/
theorem not_hasStored_run (present : race.storage.content? (accountEntry realm) ≠ none)
    (late : (race.stages other).found? ≠ some none) (schedule : List ι) :
    ¬ ((race.run realm calls schedule).stages other).HasStored := by
  induction schedule generalizing race with
  | nil => exact fun stored => late stored.1
  | cons caller rest ih =>
      have advances := turn_self realm calls race caller
      refine ih (advances.kept present) ?_
      by_cases same : other = caller
      · subst same
        exact advances.finds present late
      · rwa [turn_other race same]

/-- One key is stored, and all calls that have a key have this one. -/
structure OneKey (realm : String) (race : KeyRace ι) (key : AccountKey) : Prop where
  stored : race.storage.content? (accountEntry realm) = some key.toPem
  held : ∀ caller other, (race.stages caller).key? = some other → other = key

section

variable {ι : Type} {calls : ι → KeyCall} {race : KeyRace ι} {caller holder : ι} {key : AccountKey}

theorem Sound.key?_of_hasStored (sound : Sound realm calls race)
    (stored : (race.stages holder).HasStored) :
    (race.stages holder).key? = some (nextKey (calls holder).world) := by
  obtain ⟨absent, has⟩ := stored
  obtain ⟨key, held⟩ := Option.isSome_iff_exists.mp has
  obtain ⟨found, looked, settled⟩ := (sound.stages holder).settled held
  obtain rfl : none = found := Option.some.inj (absent.symm.trans looked)
  rw [held, settled]

/-- Where there is a key, some call has stored it. -/
theorem Sound.exists_stored (sound : Sound realm calls race)
    (held : (race.stages caller).key? = some key) :
    ∃ holder, (race.stages holder).HasStored ∧ key = nextKey (calls holder).world := by
  obtain ⟨found, looked, settled⟩ := (sound.stages caller).settled held
  cases found with
  | none => exact ⟨caller, ⟨looked, by simp [held]⟩, settled⟩
  | some pem =>
      obtain ⟨⟨holder, stored, rfl⟩, usable⟩ := settled
      refine ⟨holder, stored, ?_⟩
      have own := AccountKey.ofPem_toPem ((calls holder).world.keySource (calls holder).world.generated)
      rw [nextKey] at usable
      rw [own, Except.ok.injEq] at usable
      exact usable.symm

/-- Where there is a key, one that a call has stored is what the storage has. -/
theorem Sound.exists_content (sound : Sound realm calls race)
    (some : ∃ caller, (race.stages caller).key?.isSome) :
    ∃ holder, (race.stages holder).HasStored ∧
      race.storage.content? (accountEntry realm) = .some (nextKey (calls holder).world).toPem := by
  obtain ⟨caller, has⟩ := some
  obtain ⟨key, held⟩ := Option.isSome_iff_exists.mp has
  obtain ⟨first, stored, -⟩ := sound.exists_stored held
  obtain ⟨pem, content⟩ := Option.ne_none_iff_exists'.mp (sound.kept first stored)
  have present := content
  rw [Storage.content?] at present
  split at present
  · obtain ⟨holder, stored, rfl⟩ := sound.held pem present
    exact ⟨holder, stored, content⟩
  · contradiction

theorem Sound.exists_oneKey_iff (sound : Sound realm calls race)
    (some : ∃ caller, (race.stages caller).key?.isSome) :
    (∃ key, race.OneKey realm key) ↔ ∀ first second,
      (race.stages first).HasStored → (race.stages second).HasStored →
      nextKey (calls first).world = nextKey (calls second).world := by
  constructor
  · rintro ⟨key, one⟩ first second stored storedToo
    rw [one.held first _ (sound.key?_of_hasStored stored),
      one.held second _ (sound.key?_of_hasStored storedToo)]
  · intro same
    obtain ⟨holder, stored, content⟩ := sound.exists_content some
    refine ⟨_, content, fun caller key held => ?_⟩
    obtain ⟨first, storedToo, rfl⟩ := sound.exists_stored held
    exact same first holder storedToo stored

end

/-- What comes of calls that share a storage in which the realm had no key. -/
structure FirstUse (realm : String) (calls : ι → KeyCall) (race : KeyRace ι) : Prop where
  /-- A call that has ended has signed all that it sent with its key, and its account has this key. -/
  signed : ∀ caller found key ran, race.stages caller = .ended found key ran →
    SignedWith key (calls caller).world ran.2 ∧ ∀ account, ran.1 = .ok account → account.key = key
  /-- A call that found no key it could use has sent nothing. -/
  silent : ∀ caller failure world, race.stages caller = .failed failure world →
    world.calls = (calls caller).world.calls
  /-- What is stored is the key of a call that has a key. -/
  stored : (∃ caller, (race.stages caller).key?.isSome) →
    ∃ holder, (race.stages holder).HasStored ∧
      (race.stages holder).key? = some (nextKey (calls holder).world) ∧
      race.storage.content? (accountEntry realm) = some (nextKey (calls holder).world).toPem
  /-- The calls keep one key exactly if no two of them have stored different ones. -/
  oneKey : (∃ caller, (race.stages caller).key?.isSome) →
    ((∃ key, race.OneKey realm key) ↔ ∀ first second,
      (race.stages first).HasStored → (race.stages second).HasStored →
      nextKey (calls first).world = nextKey (calls second).world)
  /-- Calls that have not looked when the first one has its key store none. -/
  late : ∀ first second, (race.stages first).key?.isSome → race.stages second = .starting →
    ∀ schedule, ¬ ((race.run realm calls schedule).stages second).HasStored

theorem Sound.firstUse (sound : Sound realm calls race) : FirstUse realm calls race where
  signed caller found key ran ended := by
    have holds := sound.stages caller
    rw [ended] at holds
    exact holds.2
  silent caller failure world failed := by
    have holds := sound.stages caller
    rwa [failed] at holds
  stored some := by
    obtain ⟨holder, stored, content⟩ := sound.exists_content some
    exact ⟨holder, stored, sound.key?_of_hasStored stored, content⟩
  oneKey := sound.exists_oneKey_iff
  late first second has starting schedule := by
    obtain ⟨key, held⟩ := Option.isSome_iff_exists.mp has
    obtain ⟨holder, stored, -⟩ := sound.exists_stored held
    refine not_hasStored_run (sound.kept holder stored) ?_ schedule
    simp [starting, KeyStage.found?]

/-- Undisturbed, the turns of a call are the call itself. -/
theorem run_alone (race : KeyRace ι) (starts : race.stages caller = .starting) :
    let after := race.run realm calls [caller, caller, caller]
    let ran := Client.outcome
      ((calls caller).provider.accountOfRealm realm (calls caller).contact)
      { (calls caller).world with storage := race.storage }
    after.storage = ran.2.storage ∧
      ((∃ found key, after.stages caller = .ended found key ran) ∨
        ∃ failure, after.stages caller = .failed failure ran.2 ∧ ran.1 = .error failure) := by
  intro after ran
  have alone := KeyStage.advance_alone realm (calls caller) race.storage
  simpa only [after, run, List.foldl_cons, List.foldl_nil, turn, starts, Function.update_self,
    Function.update_idem] using alone

/-- However calls that find no key of their realm take turns on the storage that they share. -/
theorem first_use {storage : Storage} (absent : storage.held? (accountEntry realm) = none)
    (calls : ι → KeyCall) (schedule : List ι) :
    FirstUse realm calls ((start storage).run realm calls schedule) :=
  ((sound_start absent).run schedule).firstUse

theorem two_lt_order : 2 < P256.order := by decide

/-- Two calls that generate different keys, and whose registrations are accepted. -/
def twoCalls (caller : Bool) : KeyCall where
  provider := {
    endpoints := ⟨.str "https://acme.test/nonce", .str "https://acme.test/account",
      .str "https://acme.test/order", .null, .null, .obj []⟩
    attempts := 1 }
  contact := .arr [.str "mailto:foo@bar.com"]
  world := {
    replies := [
      .ok ⟨200, [("Replay-Nonce", "1")], []⟩,
      .ok ⟨201, [("Location", "https://acme.test/account/1")], Text.Utf8.encode ['{', '}']⟩]
    silence := .fault (.noResponse "HEAD" "https://acme.test/nonce" "timed out")
    calls := []
    storage := .inMemory
    keySource := fun _ =>
      if caller then ⟨2, Nat.two_pos, two_lt_order⟩ else ⟨1, Nat.one_pos, P256.one_lt_order⟩
    generated := 0
    records := []
    clock := Transport.defaultTimeout
    transports := [] }

/-- Calls one after the other keep one key. -/
theorem first_use_in_turn : ∃ key, OneKey "foo@bar.com"
    ((start .inMemory).run "foo@bar.com" twoCalls [false, false, true, true]) key := by
  have absent : Storage.inMemory.held? (accountEntry "foo@bar.com") = none := rfl
  have use := first_use absent twoCalls [false, false, true, true]
  have early := first_use absent twoCalls [false, false]
  have late := early.late false true rfl rfl [true, true]
  rw [← run_append, List.cons_append, List.cons_append, List.nil_append] at late
  have has : (((start .inMemory).run "foo@bar.com" twoCalls [false, false, true, true]).stages
      false).key?.isSome := by
    simp only [run, List.foldl_cons, List.foldl_nil]
    rw [turn_other _ (by decide), turn_other _ (by decide)]
    rfl
  refine (use.oneKey ⟨false, has⟩).mpr fun first second stored storedToo => ?_
  cases first <;> cases second
  · rfl
  · exact absurd storedToo late
  · exact absurd stored late
  · rfl

/-- Calls that both look before one stores register an account each, and the key of the first one is
lost. -/
theorem first_key_lost :
    ¬ ∀ (realm : String) (calls : Bool → KeyCall) (storage : Storage) (schedule : List Bool)
      (first second : Account), storage.held? (accountEntry realm) = none →
      (((start storage).run realm calls schedule).stages false).account? = some first →
      (((start storage).run realm calls schedule).stages true).account? = some second →
      first.key = second.key ∧
        ((start storage).run realm calls schedule).storage.content? (accountEntry realm) =
          some first.key.toPem := by
  intro kept
  obtain ⟨first, registered, hasKey⟩ : ∃ first : Account, (((start .inMemory).run "foo@bar.com"
      twoCalls [false, true, false, true, false, true]).stages false).account? = some first ∧
      first.key = .ofSecret ⟨1, by decide, by decide⟩ := ⟨_, rfl, rfl⟩
  obtain ⟨second, registeredToo, hasKeyToo⟩ : ∃ second : Account, (((start .inMemory).run "foo@bar.com"
      twoCalls [false, true, false, true, false, true]).stages true).account? = some second ∧
      second.key = .ofSecret ⟨2, by decide, by decide⟩ := ⟨_, rfl, rfl⟩
  have same := (kept _ _ _ _ first second rfl registered registeredToo).1
  rw [hasKey, hasKeyToo] at same
  simp [AccountKey.ofSecret] at same

end KeyRace

end AcmeClient
