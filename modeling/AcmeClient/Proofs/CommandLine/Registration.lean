import AcmeClient.Proofs.Client.KeptKey
import AcmeClient.Proofs.Client.Session
import AcmeClient.Proofs.CommandLine.Endings
import AcmeClient.Proofs.Storage.Veiled

namespace AcmeClient

open Json

variable {name : String × Json} {nonce : String} {url target address : Json} {body : Bytes}
  {mediaType : String} {key : AccountKey} {payload : List Char} {newNonce : Json}
  {built : String → Json → Bytes → Prop} {first second transcript : Transcript}

/-- A post whose header names its sender by the address of an account. -/
def Call.NamesAccount (address : Json) : Call → Prop
  | .post _ _ body => ∃ (envelope : Envelope) (members : List (String × Json)),
      Json.read body = .ok envelope.toJson ∧ Envelope.part? envelope.header = some (.obj members) ∧
        Assoc.find? "kid" members = some address
  | _ => False

theorem Envelope.header_eq_of_toJson {envelope other : Envelope}
    (same : envelope.toJson = other.toJson) : envelope.header = other.header := by
  simp only [toJson, Json.obj.injEq, List.cons.injEq, Prod.mk.injEq, Json.str.injEq, String.ofList_inj,
    true_and] at same
  exact same.1

/-- The header of a post is what whoever opens its body finds. -/
theorem Call.find?_of_namesAccount {members : List (String × Json)}
    (opens : Envelope.Opens body key (.obj members) payload)
    (names : (Call.post target mediaType body).NamesAccount address) :
    Assoc.find? "kid" members = some address := by
  obtain ⟨envelope, read, header, -⟩ := opens
  obtain ⟨other, others, readToo, headerToo, named⟩ := names
  have same := Envelope.header_eq_of_toJson (Except.ok.inj (read.symm.trans readToo))
  rw [same, headerToo, Option.some.injEq, Json.obj.injEq] at header
  rwa [← header]

theorem Posts.not_namesAccount (posts : Posts url key ("jwk", key.publicJson) payload nonce target body)
    (address : Json) : ¬ (Call.post target mediaType body).NamesAccount address := by
  intro names
  have named := Call.find?_of_namesAccount posts.2 names
  simp [Assoc.find?] at named

theorem Posts.address_eq {account : Json} (posts : Posts url key ("kid", account) payload nonce target body)
    (names : (Call.post target mediaType body).NamesAccount address) : address = account := by
  have named := Call.find?_of_namesAccount posts.2 names
  simpa [Assoc.find?, eq_comm] using named

/-- None of the requests is a post that names an account. -/
def Transcript.Anonymous (transcript : Transcript) : Prop :=
  ∀ exchange ∈ transcript, ∀ address, ¬ exchange.1.NamesAccount address

theorem Transcript.anonymous_append :
    Anonymous (first ++ second) ↔ first.Anonymous ∧ second.Anonymous := List.forall_mem_append

/-- What names an account was built, and names it whatever its media type is. -/
theorem Transcript.Sealed.of_namesAccount {exchange : Call × Reply}
    (allSealed : transcript.Sealed newNonce built) (member : exchange ∈ transcript)
    (names : exchange.1.NamesAccount address) : ∃ nonce url mediaType body,
      built nonce url body ∧ (Call.post url mediaType body).NamesAccount address := by
  obtain ⟨call, reply⟩ := exchange
  cases call with
  | get | head => exact names.elim
  | post url mediaType body =>
      obtain ⟨nonce, builds⟩ := allSealed.built_of_mem member
      exact ⟨nonce, url, mediaType, body, builds, names⟩

variable {world between : World} {realm email : String} {entry : Storage.Key} {bytes : Bytes}
  {settings : Settings}

/-- Nothing but the account's key stands in the place of the account's key. -/
theorem Storage.Backend.not_shares_accountEntry (backend : Storage.Backend) (owner : entry.realm = realm)
    (other : entry.kind ≠ .accountPrivateKey) : ¬ backend.Shares (Provider.accountEntry realm) entry := by
  cases backend with
  | memory entries =>
      rintro rfl
      exact other rfl
  | directory place =>
      intro same
      exact Storage.Key.fileName_ne_of_kind owner rfl other same.symm

namespace Provider

theorem content?_accountKey (owner : entry.realm = realm) (other : entry.kind ≠ .accountPrivateKey)
    (held : world.storage.content? entry = some bytes) :
    (Client.outcome (accountKey realm) world).2.storage.content? entry = some bytes := by
  have looked := accountKey_looked realm world
  generalize Client.outcome (accountKey realm) world = ran at looked
  cases looked with
  | unreadable | usable | unusable => exact held
  | unstored absent put | stored absent put =>
      have keeps : Storage.Keeps _ entry bytes world.storage :=
        ⟨rfl, Storage.isNameable_of_get_ok absent, held⟩
      have elsewhere := world.storage.backend.not_shares_accountEntry owner other
      have kept := (keeps.put elsewhere (nextKey world).toPem).content
      rwa [put] at kept

/-- A registration leaves the other entries of its realm as they are, and the key of its account is the
one that is stored in the end. -/
theorem accountOfRealm_stores (provider : Provider) (realm : String) (contact : Json) (world : World) :
    let ran := Client.outcome (provider.accountOfRealm realm contact) world
    (∀ entry : Storage.Key, entry.realm = realm → entry.kind ≠ .accountPrivateKey → ∀ bytes,
      world.storage.content? entry = some bytes → ran.2.storage.content? entry = some bytes) ∧
    ∀ account, ran.1 = .ok account → ∃ pem,
      ran.2.storage.content? (accountEntry realm) = some pem ∧ AccountKey.ofPem pem = .ok account.key := by
  obtain ⟨-, holds⟩ := accountKey_spec realm world
  have leaves (entry : Storage.Key) (owner : entry.realm = realm)
      (other : entry.kind ≠ .accountPrivateKey) (bytes : Bytes)
      (held : world.storage.content? entry = some bytes) := content?_accountKey owner other held
  rw [accountOfRealm_eq, Client.outcome_bind]
  cases looked : Client.outcome (accountKey realm) world with
  | mk result between =>
      rw [looked] at holds leaves
      cases result with
      | error failure => exact ⟨leaves, by simp⟩
      | ok key =>
          obtain ⟨rests, -, signs⟩ := register_spec provider realm contact key between
          obtain ⟨pem, stored, usable⟩ := holds key rfl
          dsimp only
          rw [rests.storage]
          refine ⟨leaves, fun account done => ⟨pem, stored, ?_⟩⟩
          rwa [signs account done]

end Provider

namespace CommandLine

/-- The account that a command is for: the settings are put to use, the directory is read, and the owner
is registered. -/
def accountOf (settings : Settings) (email : String) : Client Account := do
  Provider.setUp settings
  let provider ← Provider.ofSettings settings
  provider.account email

theorem perform_eq (settings : Settings) (invocation : Invocation) :
    perform settings invocation =
      (do
        let account ← accountOf settings invocation.email
        carryOut account invocation.command) := by
  simp only [perform, accountOf, bind_assoc]

theorem outcome_accountOf (settings : Settings) (email : String) (world : World) :
    Client.outcome (accountOf settings email) world = Client.outcome (do
      let provider ← Provider.ofSettings settings
      provider.account email) (opened settings world) := rfl

variable {account : Account}

theorem of_accountOf (done : Client.outcome (accountOf settings email) world = (.ok account, between)) :
    account.realm = email ∧
      (∃ pem, between.storage.content? (Provider.accountEntry email) = some pem ∧
        AccountKey.ofPem pem = .ok account.key) ∧
      ∀ entry : Storage.Key, entry.realm = email → entry.kind ≠ .accountPrivateKey → ∀ bytes,
        (opened settings world).storage.content? entry = some bytes →
        between.storage.content? entry = some bytes := by
  rw [outcome_accountOf] at done
  obtain ⟨provider, known, read, made⟩ := Client.outcome_bind_eq_ok done
  have rests := Provider.ofUrl_rests settings.directoryUrl settings.attempts (opened settings world)
  rw [Provider.ofSettings] at read
  rw [read] at rests
  obtain ⟨leaves, holds⟩ := provider.accountOfRealm_stores email (.arr [.str s!"mailto:{email}"]) known
  rw [Provider.account] at made
  rw [made] at leaves holds
  rw [rests.storage] at leaves
  exact ⟨(Provider.of_account made).2, holds account rfl, leaves⟩

/-- While an account is registered, nothing is sent in the name of an account. The last thing sent is the
post to which the answer says where the account stands. -/
theorem accountOf_sends (settings : Settings) (email : String) (world : World) :
    let ran := Client.outcome (accountOf settings email) world
    ∃ transcript, Exchanged world ran.2 transcript ∧ transcript.Anonymous ∧
      ∀ account, ran.1 = .ok account →
        account.provider.IsKnown ∧ Session.Registered account transcript := by
  have opens := exchanged_opened settings world
  have asked := opens.trans
    (Provider.ofUrl_exchanged settings.directoryUrl settings.attempts (opened settings world))
  have anonymous : Transcript.Anonymous
      [(.get (.str settings.directoryUrl), (opened settings world).nextReply)] :=
    List.forall_mem_singleton.mpr fun _ => id
  rw [outcome_accountOf, Provider.ofSettings, Client.outcome_bind]
  cases read : Client.outcome (Provider.ofUrl settings.directoryUrl settings.attempts)
      (opened settings world) with
  | mk result known =>
      rw [read] at asked
      cases result with
      | error failure => exact ⟨_, asked, anonymous, by simp⟩
      | ok provider =>
          have isKnown := Provider.isKnown_of_ofUrl read
          have found : Session.provider? ⟨known, [.provider provider]⟩ 0 = some provider := rfl
          have listed : Resource.elements (.arr [.str s!"mailto:{email}"]) =
              .ok ([s!"mailto:{email}"].map .str) := rfl
          obtain ⟨registering, exchanged, registers, usable⟩ :=
            Session.accountOfRealm_registers found isKnown email listed
          refine ⟨_, asked.trans exchanged, ?_, fun account done => ?_⟩
          · refine Transcript.anonymous_append.mpr ⟨anonymous, ?_⟩
            cases registers ⟨_, []⟩ rfl with
            | unsent => exact List.forall_mem_nil _
            | sent _ _ _ _ allSealed =>
                intro exchange member address names
                obtain ⟨_, _, _, _, posts, named⟩ := allSealed.of_namesAccount member names
                exact posts.not_namesAccount address named
          · obtain ⟨rfl, nonce, url, body, payload, response, last, registered⟩ := usable account done
            refine ⟨isKnown, nonce, url, body, payload, response, ?_, registered⟩
            rw [List.getLast?_append, last, Option.some_or]

/-- Only orders post once the account is known, and they name this account. -/
theorem carryOut_sends (known : account.provider.IsKnown) (command : Command) (world : World) :
    ∃ transcript, Exchanged world (Client.outcome (carryOut account command) world).2 transcript ∧
      ∀ exchange ∈ transcript, ∀ address, exchange.1.NamesAccount address →
        (∃ primary others, command = .order primary others) ∧ address = .str account.url := by
  have silence {action : Client Answer} (silent : Client.Keeps Silent action) :
      ∃ transcript, Exchanged world (Client.outcome action world).2 transcript ∧
        ∀ exchange ∈ transcript, ∀ address, exchange.1.NamesAccount address →
          (∃ primary others, command = .order primary others) ∧ address = .str account.url :=
    ⟨[], silent world, List.forall_mem_nil _⟩
  cases command with
  | account showKey => exact silence (Client.keeps_pure lasts_silent _)
  | certificate name =>
      refine silence (Client.keeps_bind lasts_silent (account.keeps_certificate lasts_silent name) ?_)
      intro found
      cases found <;> exact Client.keeps_pure lasts_silent _
  | order primary others =>
      obtain ⟨transcript, exchanged, allSealed⟩ :=
        account.order_sends (.str primary) (.arr (others.map .str)) world
      rw [carryOut, Client.outcome_bind_pure]
      refine ⟨transcript, exchanged, fun exchange member address names => ⟨⟨primary, others, rfl⟩, ?_⟩⟩
      obtain ⟨nonce, url, mediaType, body, ⟨listed, -, seals⟩, named⟩ :=
        allSealed.of_namesAccount member names
      have posts := seals.posts (.str account.url) known.newOrder
      exact posts.address_eq named

end CommandLine

end AcmeClient
