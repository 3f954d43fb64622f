import AcmeClient.CommandLine.Run
import AcmeClient.Proofs.Client.Secrecy
import AcmeClient.Proofs.CommandLine.Endings

namespace AcmeClient.CommandLine

variable {first second : P256.PrivateKey} {email : String}

theorem orderJson_congr {order other : Order} (alike : order.Alike other) :
    orderJson order = orderJson other := by
  simp only [orderJson, alike.url, alike.resource]

/-- A command that is not asked to show the key answers the same for all keys. -/
theorem paired_carryOut {account other : Account} (alike : account.Alike other)
    (owner : account.realm = email) {command : Command} (hides : command ≠ .account true) :
    Client.Paired (World.Twins (Storage.KeyVeiled email first second))
      (World.Twins (Storage.KeyVeiled email first second)) Eq (carryOut account command)
      (carryOut other command) := by
  have watches := Client.watches_twins (Storage.KeyVeiled email first second)
  cases command with
  | account showKey =>
      obtain rfl : showKey = false := by simpa using hides
      have same : (⟨account.url ++ "\n" ++ "", 0⟩ : Answer) = ⟨other.url ++ "\n" ++ "", 0⟩ := by
        rw [alike.url]
      exact Client.paired_pure same
  | order primary others =>
      refine (Account.paired_order watches alike _ _).bind (fun order orderToo same => ?_) id
      rw [orderJson_congr same]
      exact Client.paired_pure rfl
  | certificate name =>
      have reads : ∀ kind, kind ≠ .accountPrivateKey → ∀ name {left right : World},
          left.Twins (Storage.KeyVeiled email first second) right →
          left.storage.get ⟨account.realm, kind, name⟩ = right.storage.get ⟨account.realm, kind, name⟩ := by
        intro kind differs name left right twins
        rw [owner]
        exact twins.storage.get differs name
      refine (Account.paired_certificate watches alike reads name).follow fun found => ?_
      cases found <;> exact Client.paired_pure rfl

theorem undecided_opened {left right : World} (settings : Settings)
    (undecided : World.Undecided first second left right) :
    World.Undecided first second (opened settings left) (opened settings right) where
  next := undecided.next
  nextToo := undecided.nextToo
  replies := undecided.replies
  silence := undecided.silence
  calls := undecided.calls
  storage := by
    obtain ⟨same, fair⟩ := undecided.storage
    exact ⟨by simp only [opened, same], fair⟩
  generated := undecided.generated
  records := undecided.records
  clock := undecided.clock
  transports := by simp only [opened, undecided.transports]
  loader := undecided.loader
  tellsRefusals := undecided.tellsRefusals

theorem paired_perform (settings : Settings) {invocation : Invocation}
    (hides : invocation.command ≠ .account true) :
    Client.Paired (World.Undecided first second)
      (World.Twins (Storage.KeyVeiled invocation.email first second)) Eq (perform settings invocation)
      (perform settings invocation) := by
  have performs : Client.Paired (World.Undecided first second)
      (World.Twins (Storage.KeyVeiled invocation.email first second)) Eq
      (performing settings invocation) (performing settings invocation) := by
    refine (Provider.paired_ofUrl (Client.watches_undecided first second) _ _).bind ?_
      fun undecided => undecided.keyVeiled
    rintro provider _ rfl
    refine (provider.paired_account invocation.email first second).bind
      (fun account twin alike => ?_) id
    exact paired_carryOut alike.2 alike.1 hides
  intro left right undecided
  rw [outcome_perform, outcome_perform]
  exact performs _ _ (undecided_opened settings undecided)

/-- Two runs of which nobody can tell one from the other, but for what was posted and for what their
storages may differ in. -/
structure Report.Twins (storages : Storage → Storage → Prop) (report twin : Report) : Prop where
  ending : twin.ending = report.ending
  output : twin.output = report.output
  errors : twin.errors = report.errors
  world : World.Twins storages report.world twin.world

variable {left right : World} {invocation : Invocation}

theorem twins_runWith (undecided : World.Undecided first second left right)
    (hides : invocation.command ≠ .account true) (settings : Settings) (early : String) :
    Report.Twins (Storage.KeyVeiled invocation.email first second)
      (runWith left invocation settings early) (runWith right invocation settings early) := by
  unfold runWith
  cases Logging.Logger.initial.configure settings.logging with
  | error defect => exact ⟨rfl, rfl, rfl, undecided.keyVeiled⟩
  | ok logger =>
      obtain ⟨agree, twins⟩ := paired_perform settings hides left right undecided
      unfold Client.outcome at agree twins
      generalize (perform settings invocation).run.run left = ran at agree twins ⊢
      generalize (perform settings invocation).run.run right = ranToo at agree twins ⊢
      obtain ⟨result, after⟩ := ran
      obtain ⟨resultToo, afterToo⟩ := ranToo
      obtain rfl : result = resultToo := agree.eq
      have records : afterToo.records = after.records := twins.records
      dsimp only
      rw [records]
      cases result with
      | ok answer => exact ⟨rfl, rfl, rfl, twins⟩
      | error failure =>
          cases failure with
          | defect defect => exact ⟨rfl, rfl, rfl, twins⟩
          | fault fault =>
              dsimp only
              split
              · exact ⟨rfl, rfl, rfl, twins⟩
              · exact ⟨rfl, rfl, rfl, twins⟩

theorem twins_runInvocation (undecided : World.Undecided first second left right)
    (hides : invocation.command ≠ .account true) :
    Report.Twins (Storage.KeyVeiled invocation.email first second) (runInvocation left invocation)
      (runInvocation right invocation) := by
  simp only [runInvocation, undecided.storage.1, undecided.loader]
  cases left.storage.files.hasFile (.ofString invocation.config) with
  | error e => exact ⟨rfl, rfl, rfl, undecided.keyVeiled⟩
  | ok found =>
      cases found with
      | false => exact ⟨rfl, rfl, rfl, undecided.keyVeiled⟩
      | true =>
          dsimp only
          cases Settings.load left.storage.files (.ofString invocation.config) left.loader with
          | ok settings => exact twins_runWith undecided hides settings _
          | error failure => cases failure <;> exact ⟨rfl, rfl, rfl, undecided.keyVeiled⟩

/-- A command line that does not ask for the key is answered the same, told the same, and leads to the
same requests and files, whichever keys are generated on the way. What may differ is what is posted, and
the entry of the account's key: it is each run's own key where it is not the same in both. -/
theorem run_conceals_key (world : World) (keys : Nat → P256.PrivateKey) (arguments : List String)
    (email : String) (fair : world.storage.files.Fair)
    (asked : ∀ invocation, Invocation.read arguments = .ok invocation →
      invocation.email = email ∧ invocation.command ≠ .account true) :
    let report := run world arguments
    let twin := run { world with keySource := keys } arguments
    Report.Twins (Storage.KeyVeiled email (world.keySource world.generated) (keys world.generated))
        report twin ∧
      twin.world.storage.files.nodes.map Prod.fst = report.world.storage.files.nodes.map Prod.fst := by
  intro report twin
  have undecided : World.Undecided (world.keySource world.generated) (keys world.generated) world
      { world with keySource := keys } :=
    ⟨⟨rfl, rfl, rfl, ⟨rfl, fair⟩, rfl, rfl, rfl, rfl, rfl, rfl⟩, rfl, rfl⟩
  have twins : Report.Twins (Storage.KeyVeiled email (world.keySource world.generated)
      (keys world.generated)) report twin := by
    unfold report twin run
    cases read : Invocation.read arguments with
    | error stop => cases stop <;> exact ⟨rfl, rfl, rfl, undecided.keyVeiled⟩
    | ok invocation =>
        obtain ⟨rfl, hides⟩ := asked invocation read
        exact twins_runInvocation undecided hides
  exact ⟨twins, twins.world.storage.paths⟩

/-- An account that is registered with one key in the first run and with another one in the second. -/
theorem run_conceals_key_of_registration :
    let key : P256.PrivateKey := ⟨1, by decide, by decide⟩
    let other : P256.PrivateKey := ⟨2, by decide, by decide⟩
    let arguments := ["-c", "client.yaml", "account", "--email", "foo@bar.com"]
    let settings := "directory_url: https://acme.test/directory\nstorage_path: store\n"
    let endpoints : Json := .obj [("newNonce", .str "https://acme.test/nonce"),
      ("newAccount", .str "https://acme.test/account"), ("newOrder", .str "https://acme.test/order")]
    let world : World := {
      replies := [
        .ok ⟨200, [], Text.Utf8.encode (Json.write .compact endpoints)⟩,
        .ok ⟨200, [("Replay-Nonce", "1")], []⟩,
        .ok ⟨201, [("Location", "https://acme.test/account/1")],
          Text.Utf8.encode (Json.write .compact (.obj []))⟩]
      silence := .fault (.noResponse "HEAD" "https://acme.test/nonce" "timed out")
      calls := []
      storage := {
        backend := .memory []
        files := ⟨[(["client.yaml"], .file FileTree.publicMode (Text.bytesOf settings))], fun _ => none⟩
        outages := [] }
      keySource := fun _ => key
      generated := 0
      records := []
      clock := .whole 0
      transports := [] }
    let report := run world arguments
    let twin := run { world with keySource := fun _ => other } arguments
    Report.Twins (Storage.KeyVeiled "foo@bar.com" key other) report twin ∧
      twin.world.storage.files.nodes.map Prod.fst = report.world.storage.files.nodes.map Prod.fst := by
  intro key other arguments settings endpoints world
  have read : Invocation.read arguments = .ok ⟨"client.yaml", false, "foo@bar.com", .account false⟩ := rfl
  refine run_conceals_key world (fun _ => other) arguments "foo@bar.com" (fun _ _ _ _ => rfl) ?_
  intro invocation found
  rw [read, Except.ok.injEq] at found
  subst found
  exact ⟨rfl, by decide⟩

end AcmeClient.CommandLine
