import AcmeClient.Proofs.Client.AccountKey
import AcmeClient.Proofs.Storage.Directory

namespace AcmeClient

namespace Storage

variable {s kept : Storage} {key other : Key} {value : Bytes} {refusal : Action → Option String}
  {outages : List Outage}

/-- The storage as a later run meets it, when other steps are refused and other accesses fail. -/
def reopened (s : Storage) (refusal : Action → Option String) (outages : List Outage) : Storage :=
  ⟨s.backend, { s.files with refusal }, outages⟩

/-- An access, and what is refused and fails while it is made. -/
structure Visit where
  operation : Operation
  refusal : Action → Option String
  outages : List Outage

namespace Visit

/-- The storage that an access leaves. -/
def leaves (visit : Visit) (s : Storage) : Storage :=
  ((s.reopened visit.refusal visit.outages).perform visit.operation).1

/-- Whether an access stores something in the place of an entry. -/
def Writes (visit : Visit) (backend : Backend) (key : Key) : Prop :=
  ∃ other value, visit.operation = .put other value ∧ backend.Shares other key

end Visit

def after (s : Storage) (visits : List Visit) : Storage :=
  visits.foldl (fun s visit => visit.leaves s) s

theorem isOpen_reopened (s : Storage) (refusal : Action → Option String) (outages : List Outage) :
    (s.reopened refusal outages).isOpen ↔ s.isOpen := by
  obtain ⟨backend, files, _⟩ := s
  cases backend with
  | memory entries => exact Iff.rfl
  | directory place =>
      rw [reopened, isOpen_directory, isOpen_directory, FileTree.reach_eq_ok_iff,
        FileTree.reach_eq_ok_iff]
      rfl

theorem shares_put (s : Storage) (key : Key) (value : Bytes) :
    (s.put key value).1.backend.Shares = s.backend.Shares := by
  obtain ⟨backend, files, outages⟩ := s
  cases clear : checkOutage ⟨backend, files, outages⟩ .put key.kind with
  | error failure => simp only [put, clear]
  | ok _ =>
      cases backend with
      | memory entries =>
          rw [put_memory clear]
          rfl
      | directory place =>
          obtain ⟨later, stays⟩ := put_stays place files outages key value
          rw [stays]

theorem isNameable_of_put_ok (stored : s.put key value = (kept, .ok ())) : s.isNameable := by
  obtain ⟨backend, files, outages⟩ := s
  cases backend with
  | memory entries => rfl
  | directory place =>
      cases clear : checkOutage ⟨.directory place, files, outages⟩ .put key.kind with
      | error failure => simp [put, clear] at stored
      | ok _ =>
          rw [put_directory clear] at stored
          split at stored
          · simp at stored
          · rename_i nameable
            simpa [isNameable] using nameable

theorem content?_eq_some_iff : s.content? key = some value ↔ s.isOpen ∧ s.held? key = some value := by
  rw [content?, Option.ite_none_right_eq_some]

/-- An entry that can be found has a value, whatever runs do elsewhere. -/
structure Keeps (shares : Key → Key → Prop) (key : Key) (value : Bytes) (s : Storage) : Prop where
  shares : s.backend.Shares = shares
  nameable : s.isNameable
  content : s.content? key = some value

namespace Keeps

variable {shares : Key → Key → Prop}

theorem reopened (keeps : Keeps shares key value s) (refusal : Action → Option String)
    (outages : List Outage) : Keeps shares key value (s.reopened refusal outages) := by
  obtain ⟨opened, held⟩ := content?_eq_some_iff.mp keeps.content
  exact ⟨keeps.shares, keeps.nameable,
    content?_eq_some_iff.mpr ⟨(isOpen_reopened s refusal outages).mpr opened, held⟩⟩

theorem put (keeps : Keeps shares key value s) (elsewhere : ¬ shares other key) (stored : Bytes) :
    Keeps shares key value (s.put other stored).1 := by
  obtain ⟨opened, held⟩ := content?_eq_some_iff.mp keeps.content
  refine ⟨(shares_put s other stored).trans keeps.shares,
    (isNameable_put s other stored).trans keeps.nameable, content?_eq_some_iff.mpr ?_⟩
  cases result : s.put other stored with
  | mk later answer =>
      cases answer with
      | ok _ =>
          obtain ⟨openedThen, -, -, others⟩ := put_ok result
          exact ⟨openedThen, (others key (by rwa [keeps.shares])).trans held⟩
      | error failure =>
          obtain ⟨openedThen, same⟩ := put_error result
          exact ⟨openedThen opened, (same key).trans held⟩

theorem leaves {visit : Visit} (keeps : Keeps shares key value s)
    (elsewhere : ¬ visit.Writes s.backend key) : Keeps shares key value (visit.leaves s) := by
  obtain ⟨operation, refusal, outages⟩ := visit
  have met := keeps.reopened refusal outages
  cases operation with
  | get read => exact met
  | put other stored =>
      refine met.put (fun shared => elsewhere ⟨other, stored, rfl, ?_⟩) stored
      rwa [keeps.shares]

theorem after {visits : List Visit} (keeps : Keeps shares key value s)
    (elsewhere : ∀ visit ∈ visits, ¬ visit.Writes s.backend key) :
    Keeps shares key value (s.after visits) := by
  induction visits generalizing s with
  | nil => exact keeps
  | cons visit rest ih =>
      rw [List.forall_mem_cons] at elsewhere
      have next := keeps.leaves elsewhere.1
      refine ih next fun later member => ?_
      -- An access changes no sharing, so the later ones still store elsewhere.
      have alike : (visit.leaves s).backend.Shares = s.backend.Shares :=
        next.shares.trans keeps.shares.symm
      rw [Visit.Writes, alike]
      exact elsewhere.2 later member

end Keeps

/-- Whether the system refuses to read the file of an entry. -/
def Withholds (s : Storage) (key : Key) : Prop :=
  match s.backend with
  | .memory _ => False
  | .directory place => s.files.refusal (.read (entryPath place key)) ≠ none

theorem get_of_content? (nameable : s.isNameable) (held : s.content? key = some value)
    (clear : s.checkOutage .get key.kind = .ok ()) (willing : ¬ s.Withholds key) :
    s.get key = .ok (some value) := by
  obtain ⟨opened, there⟩ := content?_eq_some_iff.mp held
  obtain ⟨backend, files, outages⟩ := s
  cases backend with
  | memory entries =>
      rw [get_memory clear]
      exact congrArg Except.ok there
  | directory place =>
      have read : files.read (place.child key.fileName) = .ok value := by
        rw [FileTree.read_eq_ok_iff, place.path_child key.fileName_ne_dots, place.way_child]
        exact ⟨there, isOpen_directory.mp opened, Classical.not_not.mp willing⟩
      rw [get_directory clear, if_neg (by simpa [isNameable] using nameable), read]

end Storage

namespace AccountKey

variable {key other : AccountKey}

theorem ofPem_toPem_secret (key : AccountKey) : ofPem key.toPem = .ok (ofSecret key.secret) :=
  ofPem_toPem key.secret

theorem toPem_inj : key.toPem = other.toPem ↔ key.secret = other.secret := by
  constructor
  · intro same
    have read := ofPem_toPem_secret key
    rw [same, ofPem_toPem_secret other] at read
    exact (congrArg secret (Except.ok.inj read)).symm
  · exact congrArg KeyFile.write

end AccountKey

namespace Provider

variable {realm : String} {key : AccountKey} {pem : Bytes} {s kept : Storage}

/-- In every later run the key of a realm is what it was, as long as nothing else is stored in its
place. Looking it up makes no key and stores nothing; it fails only if reading does. -/
def KeepsKey (realm : String) (key : AccountKey) (kept : Storage) : Prop :=
  ∀ (visits : List Storage.Visit) (world : World),
    (∀ visit ∈ visits, ¬ visit.Writes kept.backend (accountEntry realm)) →
    (∃ refusal outages, world.storage = (kept.after visits).reopened refusal outages) →
    (∃ records, Client.outcome (accountKey realm) world = (.ok key, { world with records })) ∨
      ∃ failure, Client.outcome (accountKey realm) world = (.error failure, world) ∧
        failure.IsStorage ∧ (world.storage.checkOutage .get .accountPrivateKey ≠ .ok () ∨
          world.storage.Withholds (accountEntry realm))

theorem keepsKey (nameable : kept.isNameable) (held : kept.content? (accountEntry realm) = some pem)
    (usable : AccountKey.ofPem pem = .ok key) : KeepsKey realm key kept := by
  intro visits world elsewhere ⟨refusal, outages, later⟩
  have keeps : Storage.Keeps kept.backend.Shares (accountEntry realm) pem kept := ⟨rfl, nameable, held⟩
  obtain ⟨-, nameableThen, heldThen⟩ := (keeps.after elsewhere).reopened refusal outages
  rw [← later] at nameableThen heldThen
  cases read : world.storage.get (accountEntry realm) with
  | ok answer =>
      rw [Storage.get_ok read, heldThen] at read
      exact .inl (accountKey_usable read usable)
  | error failure =>
      refine .inr ⟨failure, accountKey_unreadable read, Storage.get_error nameableThen read, ?_⟩
      by_contra fine
      rw [not_or, Classical.not_not] at fine
      rw [Storage.get_of_content? nameableThen heldThen fine.1 fine.2] at read
      contradiction

theorem keepsKey_of_put (stored : s.put (accountEntry realm) key.toPem = (kept, .ok ())) :
    KeepsKey realm (.ofSecret key.secret) kept := by
  have nameable : (s.put (accountEntry realm) key.toPem).1.isNameable :=
    (Storage.isNameable_put _ _ _).trans (Storage.isNameable_of_put_ok stored)
  rw [stored] at nameable
  exact keepsKey nameable (Storage.content?_put stored) (AccountKey.ofPem_toPem_secret key)

theorem keepsKey_of_accountKey {world : World}
    (found : (Client.outcome (accountKey realm) world).1 = .ok key) :
    KeepsKey realm key (Client.outcome (accountKey realm) world).2.storage := by
  obtain ⟨pem, held, usable⟩ := (accountKey_spec realm world).2 key found
  refine keepsKey ?_ held usable
  have looked := accountKey_looked realm world
  generalize Client.outcome (accountKey realm) world = ran at found looked
  cases looked with
  | unreadable | unusable | unstored => contradiction
  | usable read _ => exact Storage.isNameable_of_get_ok read
  | stored absent put =>
      have same := Storage.isNameable_put world.storage (accountEntry realm) (nextKey world).toPem
      rw [put] at same
      exact same.trans (Storage.isNameable_of_get_ok absent)

/-- The file of a key is plain text, and gives back the key that it was made of. A key that was stored,
or that a run has found or made for a realm, is the key of the realm in every later run. -/
theorem account_key_file :
    (∀ key : AccountKey,
      (∃ loaded, AccountKey.ofPem key.toPem = .ok loaded ∧ loaded.secret = key.secret ∧
        loaded.publicJson = key.publicJson ∧ loaded.thumbprint = key.thumbprint ∧
        loaded.toPem = key.toPem) ∧
      (∀ b ∈ key.toPem, b.toNat < 0x80) ∧
      ∀ other : AccountKey, key.toPem = other.toPem ↔ key.secret = other.secret) ∧
    (∀ (key : AccountKey) (realm : String) (s kept : Storage),
      s.put (accountEntry realm) key.toPem = (kept, .ok ()) →
      KeepsKey realm (.ofSecret key.secret) kept) ∧
    ∀ (key : AccountKey) (realm : String) (world : World),
      (Client.outcome (accountKey realm) world).1 = .ok key →
      KeepsKey realm key (Client.outcome (accountKey realm) world).2.storage := by
  refine ⟨fun key => ⟨?_, KeyFile.ascii_write key.secret, fun _ => AccountKey.toPem_inj⟩,
    fun _ _ _ _ => keepsKey_of_put, fun _ _ _ => keepsKey_of_accountKey⟩
  -- All that is told about a key but its refusal comes from its secret.
  exact ⟨_, AccountKey.ofPem_toPem_secret key, rfl, rfl, rfl, rfl⟩

/-- The smallest key is kept in memory, by the run that makes it, and in an empty directory, where a
later run finds it. -/
theorem account_key_file_of_one :
    let key : AccountKey := .ofSecret ⟨1, by decide, by decide⟩
    let entry := accountEntry "foo@bar.com"
    let world (storage : Storage) : World := {
      replies := [], calls := [], storage
      silence := .fault (.noResponse "HEAD" "https://acme.test/nonce" "timed out")
      keySource := fun _ => key.secret, generated := 0, records := [], clock := .whole 0
      transports := [] }
    let kept : Storage := ⟨.directory ⟨"/", []⟩, ⟨[([entry.fileName],
      .file FileTree.privateMode key.toPem)], fun _ => none⟩, []⟩
    KeepsKey "foo@bar.com" key ⟨.memory [(entry, key.toPem)], .empty, []⟩ ∧
      KeepsKey "foo@bar.com" key (Client.outcome (accountKey "foo@bar.com") (world .inMemory)).2.storage ∧
      ∃ records, Client.outcome (accountKey "foo@bar.com") (world kept) =
        (.ok key, { world kept with records }) := by
  intro key entry world kept
  refine ⟨account_key_file.2.1 key _ .inMemory _ rfl,
    account_key_file.2.2 key _ (world .inMemory) ?_, ?_⟩
  · have absent : (world .inMemory).storage.get (accountEntry "foo@bar.com") = .ok none := rfl
    obtain ⟨_, stored⟩ := accountKey_stored absent rfl
    rw [stored]
    rfl
  · have name : entry.fileName = "foo@bar.com_account_private_key_acme_account.key" := by decide
    have fits : entry.Fits := by
      rw [Storage.Key.Fits, name]
      decide
    have stored : Storage.put ⟨.directory ⟨"/", []⟩, .empty, []⟩ entry key.toPem = (kept, .ok ()) := by
      rw [Storage.put_directory (Storage.checkOutage_nil _ _), FileTree.replace_empty fits]
      rfl
    have keeps := account_key_file.2.1 key "foo@bar.com" _ kept stored
    rcases keeps [] (world kept) (by simp) ⟨_, _, rfl⟩ with found | ⟨_, -, -, outage | withheld⟩
    · exact found
    · exact absurd rfl outage
    · exact absurd rfl withheld

end Provider

end AcmeClient
