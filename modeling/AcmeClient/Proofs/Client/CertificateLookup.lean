import AcmeClient.Client.Account
import AcmeClient.Proofs.Client.Outcome
import AcmeClient.Proofs.Json.Documents
import AcmeClient.Proofs.Storage.Entries
import AcmeClient.Proofs.Text.Utf8

namespace AcmeClient

variable {world : World}

namespace Storage

variable {s : Storage} {key : Key}

/-- The text of a value, if there is one and it is text. -/
def textOf? (value : Option Bytes) : Option String :=
  value.bind fun bytes => (Text.Utf8.decode bytes).toOption.map String.ofList

/-- Reading an entry fails. -/
def Fails (s : Storage) (key : Key) : Prop := ∃ failure, s.get key = .error failure

/-- An entry is there and is UTF-8, as the library has it. -/
def IsText (s : Storage) (key : Key) : Prop :=
  ∃ bytes, s.content? key = some bytes ∧ bytes.toByteArray.IsValidUTF8

theorem get_of_not_fails (reads : ¬ s.Fails key) : s.get key = .ok (s.content? key) := by
  cases read : s.get key with
  | error failure => exact absurd ⟨failure, read⟩ reads
  | ok value => rw [get_ok read]

theorem not_fails_of_get {value : Option Bytes} (read : s.get key = .ok value) : ¬ s.Fails key := by
  rintro ⟨failure, failed⟩
  rw [read] at failed
  contradiction

/-- The text of a value is written as its bytes. -/
theorem textOf?_eq_some_iff {value : Option Bytes} {text : String} :
    textOf? value = some text ↔ value.map List.toByteArray = some text.toByteArray := by
  cases value with
  | none => simp [textOf?]
  | some bytes =>
      rw [Option.map_some, Option.some.injEq, ← Text.Utf8.bytesOf_toByteArray, List.toByteArray_inj]
      constructor
      · intro shown
        cases read : Text.Utf8.decode bytes with
        | error e => simp [textOf?, read, Except.toOption] at shown
        | ok chars =>
            simp only [textOf?, Option.bind_some, read, Except.toOption, Option.map_some,
              Option.some.injEq] at shown
            rw [← shown, Text.bytesOf, String.toList_ofList, Text.Utf8.decode_eq_ok_iff.mp read]
      · rintro rfl
        simp [textOf?, Text.bytesOf, Except.toOption]

theorem isText_iff : s.IsText key ↔ ∃ text, textOf? (s.content? key) = some text := by
  simp only [textOf?_eq_some_iff]
  constructor
  · rintro ⟨bytes, held, valid⟩
    exact ⟨.ofByteArray bytes.toByteArray valid, by rw [held]; rfl⟩
  · rintro ⟨text, held⟩
    obtain ⟨bytes, held, written⟩ := Option.map_eq_some_iff.mp held
    exact ⟨bytes, held, written ▸ text.isValidUTF8⟩

end Storage

namespace Account

theorem outcome_readText_bind {α : Type} (entry : Storage.Key) (next : Option String → Client α)
    (world : World) :
    Client.outcome (readText entry >>= next) world =
      match world.storage.get entry with
      | .ok value => Client.outcome (next (Storage.textOf? value)) world
      | .error failure => (.error failure, world) := by
  rw [readText, bind_assoc, Client.outcome_bind, Client.outcome_readEntry]
  rcases world.storage.get entry with failure | none | bytes <;> rfl

def keyEntry (account : Account) (name : String) : Storage.Key := ⟨account.realm, .privateKey, name⟩

def chainEntry (account : Account) (name : String) : Storage.Key := ⟨account.realm, .certificate, name⟩

/-- The two halves of a certificate, if both are there. -/
def joined (privateKey chain : Option String) : Option Certificate :=
  match privateKey, chain with
  | some privateKey, some chain => some ⟨privateKey, chain⟩
  | _, _ => none

/-- What a storage has under a name: its two entries are read, one after the other. -/
def kept (account : Account) (name : String) (s : Storage) : Except Failure (Option Certificate) := do
  let privateKey ← s.get (account.keyEntry name)
  let chain ← s.get (account.chainEntry name)
  return joined (Storage.textOf? privateKey) (Storage.textOf? chain)

theorem outcome_certificate (account : Account) (name : String) (world : World) :
    ∃ records, Client.outcome (account.certificate name) world =
      (account.kept name world.storage, { world with records }) := by
  unfold kept
  unfold certificate
  rw [Client.outcome_bind, Client.outcome_debug]
  dsimp only
  rw [outcome_readText_bind, World.told]
  dsimp only
  rw [← keyEntry]
  cases world.storage.get (account.keyEntry name) with
  | error failure => exact ⟨_, rfl⟩
  | ok privateKey =>
      dsimp only
      rw [Client.outcome_bind, Client.outcome_debug]
      dsimp only
      rw [outcome_readText_bind, World.told]
      dsimp only
      rw [← chainEntry]
      cases world.storage.get (account.chainEntry name) with
      | error failure => exact ⟨_, rfl⟩
      | ok chain => exact ⟨_, rfl⟩

theorem joined_eq_some_iff {privateKey chain : Option String} {certificate : Certificate} :
    joined privateKey chain = some certificate ↔
      privateKey = some certificate.privateKey ∧ chain = some certificate.chain := by
  obtain ⟨keyText, chainText⟩ := certificate
  cases privateKey <;> cases chain <;> simp [joined]

section Kept

variable {account : Account} {name : String} {s : Storage}

theorem kept_eq_ok_iff {found : Option Certificate} :
    account.kept name s = .ok found ↔
      (¬ s.Fails (account.keyEntry name) ∧ ¬ s.Fails (account.chainEntry name)) ∧
        joined (Storage.textOf? (s.content? (account.keyEntry name)))
          (Storage.textOf? (s.content? (account.chainEntry name))) = found := by
  constructor
  · intro done
    obtain ⟨privateKey, keyRead, done⟩ := Json.exists_of_bind_eq_ok done
    obtain ⟨chain, chainRead, done⟩ := Json.exists_of_bind_eq_ok done
    rw [← Storage.get_ok keyRead, ← Storage.get_ok chainRead]
    exact ⟨⟨Storage.not_fails_of_get keyRead, Storage.not_fails_of_get chainRead⟩,
      Except.ok.inj done⟩
  · rintro ⟨⟨keyReads, chainReads⟩, rfl⟩
    rw [kept, Storage.get_of_not_fails keyReads, Storage.get_of_not_fails chainReads]
    rfl

theorem kept_eq_error_iff {failure : Failure} :
    account.kept name s = .error failure ↔
      s.get (account.keyEntry name) = .error failure ∨
        ¬ s.Fails (account.keyEntry name) ∧ s.get (account.chainEntry name) = .error failure := by
  simp only [kept, Json.bind_eq_error_iff, pure, Except.pure, reduceCtorEq, and_false, exists_false,
    or_false]
  constructor
  · rintro (failed | ⟨privateKey, read, failed⟩)
    · exact .inl failed
    · exact .inr ⟨Storage.not_fails_of_get read, failed⟩
  · rintro (failed | ⟨reads, failed⟩)
    · exact .inl failed
    · exact .inr ⟨_, Storage.get_of_not_fails reads, failed⟩

end Kept

/-- What looking up a certificate comes to, told by what the two entries of its name are. -/
structure Lookup (account : Account) (name : String) (world : World)
    (ran : Except Failure (Option Certificate) × World) : Prop where
  /-- The texts of a certificate are, byte for byte, the entries, each its own one. -/
  found : ∀ certificate, ran.1 = .ok (some certificate) ↔
    (¬ world.storage.Fails (account.keyEntry name) ∧
      ¬ world.storage.Fails (account.chainEntry name)) ∧
    (world.storage.content? (account.keyEntry name)).map List.toByteArray =
      some certificate.privateKey.toByteArray ∧
    (world.storage.content? (account.chainEntry name)).map List.toByteArray =
      some certificate.chain.toByteArray
  present : (∃ certificate, ran.1 = .ok (some certificate)) ↔
    (¬ world.storage.Fails (account.keyEntry name) ∧
      ¬ world.storage.Fails (account.chainEntry name)) ∧
    world.storage.IsText (account.keyEntry name) ∧ world.storage.IsText (account.chainEntry name)
  missing : ran.1 = .ok none ↔
    (¬ world.storage.Fails (account.keyEntry name) ∧
      ¬ world.storage.Fails (account.chainEntry name)) ∧
    ¬ (world.storage.IsText (account.keyEntry name) ∧
      world.storage.IsText (account.chainEntry name))
  /-- Either entry that cannot be read shows, whatever the other one is; the first one comes first. -/
  failed : ∀ failure, ran.1 = .error failure ↔
    world.storage.get (account.keyEntry name) = .error failure ∨
      ¬ world.storage.Fails (account.keyEntry name) ∧
        world.storage.get (account.chainEntry name) = .error failure
  /-- The failure is a documented one, except where the system cannot name the place of the entries. -/
  documented : ∀ failure, ran.1 = .error failure →
    (failure.IsStorage ↔
      world.storage.isNameable ∨ world.storage.checkOutage .get .privateKey ≠ .ok ())
  /-- Only lines of the log are left behind. -/
  unchanged : ∃ records, ran.2 = { world with records }

theorem certificate_lookup (account : Account) (name : String) (world : World) :
    account.Lookup name world (Client.outcome (account.certificate name) world) := by
  obtain ⟨records, ran⟩ := outcome_certificate account name world
  rw [ran]
  refine ⟨fun certificate => ?_, ?_, ?_, fun failure => kept_eq_error_iff, fun failure failed => ?_,
    ⟨records, rfl⟩⟩
  · simp only [kept_eq_ok_iff, joined_eq_some_iff, Storage.textOf?_eq_some_iff]
  · simp only [kept_eq_ok_iff, joined_eq_some_iff, Storage.isText_iff, exists_and_left]
    refine and_congr_right fun _ => ⟨?_, ?_⟩
    · rintro ⟨certificate, keyText, chainText⟩
      exact ⟨⟨_, keyText⟩, ⟨_, chainText⟩⟩
    · rintro ⟨⟨privateKey, keyText⟩, ⟨chain, chainText⟩⟩
      exact ⟨⟨privateKey, chain⟩, keyText, chainText⟩
  · rw [kept_eq_ok_iff, Storage.isText_iff, Storage.isText_iff]
    refine and_congr_right fun _ => ?_
    cases Storage.textOf? (world.storage.content? (account.keyEntry name)) <;>
      cases Storage.textOf? (world.storage.content? (account.chainEntry name)) <;> simp [joined]
  · obtain failed | ⟨reads, failed⟩ := kept_eq_error_iff.mp failed
    · exact Storage.get_error_isStorage_iff failed
    · have nameable := Storage.isNameable_of_get_ok (Storage.get_of_not_fails reads)
      exact ⟨fun _ => .inl nameable, fun _ => Storage.get_error nameable failed⟩

/-- A directory whose path holds a null cannot be named, and looking up a certificate in it fails in a
way that is not documented. -/
theorem undocumented_lookup_failure :
    ¬ ∀ (account : Account) (name : String) (world : World),
      (∃ failure, failure.IsStorage ∧
        (Client.outcome (account.certificate name) world).1 = .error failure) ↔
      world.storage.Fails (account.keyEntry name) ∨
        world.storage.Fails (account.chainEntry name) := by
  intro documented
  let world : World := {
    replies := [], calls := []
    silence := .fault (.noResponse "HEAD" "https://acme.test/nonce" "timed out")
    storage := ⟨.directory ⟨"", ["a\x00b"]⟩, .empty, []⟩
    keySource := fun _ => ⟨1, by decide, by decide⟩
    generated := 0, records := [], clock := .whole 0, transports := [] }
  let account : Account := {
    provider := default, realm := "foo@bar.com", key := .ofSecret ⟨1, by decide, by decide⟩
    resource := default, url := "https://acme.test/acct/1" }
  have unnameable : Location.hasNull ⟨"", ["a\x00b"]⟩ = true := by decide
  have failed : world.storage.get (account.keyEntry "example.com") = .error (.defect .nullInPath) := by
    rw [Storage.get_directory (Storage.checkOutage_nil _ _), if_pos unnameable]
  obtain ⟨failure, ⟨fault, rfl, -⟩, ran⟩ :=
    (documented account "example.com" world).mpr (.inl ⟨_, failed⟩)
  obtain ⟨records, looked⟩ := outcome_certificate account "example.com" world
  rw [looked, kept_eq_error_iff.mpr (.inl failed)] at ran
  simp at ran

end Account

end AcmeClient
