import AcmeClient.Proofs.Client.Sealed
import AcmeClient.Proofs.Client.TwoRuns
import AcmeClient.Proofs.Key.File
import AcmeClient.Proofs.Storage.Veiled

namespace AcmeClient

variable {α : Type}

/-- A request without what it carries. -/
def Call.withoutBody : Call → Call
  | .get url => .get url
  | .head url => .head url
  | .post url mediaType _ => .post url mediaType []

theorem Call.line_of_alike {call other : Call} (alike : call.withoutBody = other.withoutBody) :
    call.method = other.method ∧ call.url = other.url := by
  cases call <;> cases other <;> simp_all [withoutBody, method, url]

/-- Worlds that look the same but for what was posted. Their storages may differ in their own way, and
so may the keys that come next. -/
structure World.Twins (storages : Storage → Storage → Prop) (left right : World) : Prop where
  replies : right.replies = left.replies
  silence : right.silence = left.silence
  calls : right.calls.map Call.withoutBody = left.calls.map Call.withoutBody
  storage : storages left.storage right.storage
  generated : right.generated = left.generated
  records : right.records = left.records
  clock : right.clock = left.clock
  transports : right.transports = left.transports
  loader : right.loader = left.loader
  tellsRefusals : right.tellsRefusals = left.tellsRefusals

namespace World.Twins

variable {storages others : Storage → Storage → Prop} {left right : World}

theorem mono (twins : World.Twins storages left right)
    (weaker : storages left.storage right.storage → others left.storage right.storage) :
    World.Twins others left right :=
  { twins with storage := weaker twins.storage }

theorem told (twins : World.Twins storages left right) (level : Int) (logger message : String) :
    World.Twins storages (left.told level logger message) (right.told level logger message) :=
  { twins with records := by simp only [World.told, twins.records, twins.clock] }

theorem nextReply (twins : World.Twins storages left right) : left.nextReply = right.nextReply := by
  simp only [World.nextReply, World.replyAfter, twins.replies, twins.silence]

theorem sent (twins : World.Twins storages left right) {call other : Call}
    (alike : call.withoutBody = other.withoutBody) :
    World.Twins storages (left.sent call) (right.sent other) :=
  { twins with
    records := by
      obtain ⟨method, url⟩ := Call.line_of_alike alike
      simp only [World.sent, World.replyLines, twins.records, ← twins.nextReply, twins.tellsRefusals,
        twins.clock, method, url]
    replies := by simp only [World.sent, twins.replies]
    calls := by simp only [World.sent, List.map_append, twins.calls, List.map_singleton, alike] }

end World.Twins

/-- The same storage, in which content is stored or refused whatever it says. -/
def Storage.Shared (s other : Storage) : Prop := other = s ∧ s.files.Fair

/-- Twin worlds with one storage, in which different keys come next. -/
structure World.Undecided (first second : P256.PrivateKey) (left right : World) : Prop extends
    World.Twins Storage.Shared left right where
  next : left.keySource left.generated = first
  nextToo : right.keySource right.generated = second

namespace Client

/-- A relation of worlds in which requests for the same meet the same reply, and which neither these nor
lines of the log disturb. -/
structure Watches (related : World → World → Prop) : Prop where
  tells : Tells related
  nextReply : ∀ {left right}, related left right → left.nextReply = right.nextReply
  sent : ∀ {left right}, related left right → ∀ {call other : Call},
    call.withoutBody = other.withoutBody → related (left.sent call) (right.sent other)

theorem watches_twins (storages : Storage → Storage → Prop) : Watches (World.Twins storages) where
  tells twins := twins.told
  nextReply twins := twins.nextReply
  sent twins _ _ := twins.sent

theorem watches_undecided (first second : P256.PrivateKey) :
    Watches (World.Undecided first second) where
  tells undecided _ _ _ := ⟨undecided.told _ _ _, undecided.next, undecided.nextToo⟩
  nextReply undecided := undecided.nextReply
  sent undecided _ _ alike := ⟨undecided.toTwins.sent alike, undecided.next, undecided.nextToo⟩

variable {related : World → World → Prop} (watches : Watches related)

include watches

theorem paired_send {call other : Call} (alike : call.withoutBody = other.withoutBody) :
    Paired related related Eq (send call) (send other) := by
  intro left right twins
  rw [outcome_send, outcome_send, watches.nextReply twins]
  exact ⟨.of_eq rfl, watches.sent twins alike⟩

end Client

/-- Builders that make what goes to the same address. -/
def Builder.Paired (related : World → World → Prop) (build buildToo : Builder) : Prop :=
  ∀ nonce, Client.Paired related related (fun made madeToo => made.1 = madeToo.1) (build nonce)
    (buildToo nonce)

/-- Keys that both sign, or that refuse to for the same reason. -/
def AccountKey.Alike (key other : AccountKey) : Prop := key.refusal = other.refusal

namespace Provider

variable {related : World → World → Prop} (watches : Client.Watches related) {provider : Provider}
  {build buildToo : Builder}

include watches

theorem paired_newNonce : Client.Paired related related Eq provider.newNonce provider.newNonce := by
  refine (Client.paired_send watches rfl).follow fun response => ?_
  refine (Client.paired_ofExcept_self _).follow fun checked => ?_
  exact Client.paired_ofExcept_self _

theorem paired_attempt (builds : Builder.Paired related build buildToo) (number total : Int) :
    Client.Paired related related Eq (provider.attempt build number total)
      (provider.attempt buildToo number total) := by
  refine (paired_newNonce watches).follow fun nonce => ?_
  refine (builds nonce).bind ?_ id
  rintro ⟨url, body⟩ ⟨urlToo, bodyToo⟩ same
  obtain rfl : url = urlToo := same
  refine (Client.paired_debug watches.tells _ _).follow fun _ => ?_
  have posts : Client.Paired related related Eq (Client.send (.post url Envelope.mediaType body))
      (Client.send (.post url Envelope.mediaType bodyToo)) := Client.paired_send watches rfl
  refine posts.follow fun response => ?_
  exact Client.paired_pure rfl

theorem paired_attemptFrom (builds : Builder.Paired related build buildToo) (total : Int) (more : Nat) :
    Client.Paired related related Eq (provider.attemptFrom build total more)
      (provider.attemptFrom buildToo total more) := by
  induction more with
  | zero =>
      refine (paired_attempt watches builds total total).bind ?_ id
      rintro ⟨url, response⟩ _ rfl
      exact Client.paired_ofExcept_self _
  | succ more ih =>
      refine (paired_attempt watches builds _ total).bind ?_ id
      rintro ⟨url, response⟩ _ rfl
      cases response with
      | ok response => exact Client.paired_pure rfl
      | error failure =>
          dsimp only
          split
          · exact (Client.paired_info watches.tells _ _).follow fun _ => ih
          · exact Client.paired_throw _

theorem paired_request (builds : Builder.Paired related build buildToo) (attempts : Option Int) :
    Client.Paired related related Eq (provider.request build attempts)
      (provider.request buildToo attempts) := by
  simp only [Provider.request]
  split
  · exact (Client.paired_throw _).follow fun _ => paired_attemptFrom watches builds _ _
  · exact paired_attemptFrom watches builds _ _

theorem paired_sealing {key other : AccountKey} (keys : key.Alike other)
    (logger message : String) (url : Json) (sender : Sender) (content : Json) :
    Builder.Paired related (sealing logger message url key sender content)
      (sealing logger message url other sender content) := by
  intro nonce
  refine (Client.paired_debug watches.tells _ _).follow fun _ => ?_
  have refused : key.refusal = other.refusal := keys
  simp only [sealed, Envelope.sign, AccountKey.sign, ← refused]
  cases key.refusal with
  | some reason => exact Client.paired_throw _
  | none => exact Client.paired_pure rfl

end Provider

/-- Accounts that differ in their keys alone. -/
structure Account.Alike (account other : Account) : Prop where
  provider : account.provider = other.provider
  realm : account.realm = other.realm
  key : account.key.Alike other.key
  resource : account.resource = other.resource
  url : account.url = other.url

structure Order.Alike (order other : Order) : Prop where
  account : order.account.Alike other.account
  resource : order.resource = other.resource
  url : order.url = other.url

section

variable {related : World → World → Prop} (watches : Client.Watches related)

include watches

theorem Provider.paired_ofUrl (url : String) (attempts : Int) :
    Client.Paired related related Eq (Provider.ofUrl url attempts) (Provider.ofUrl url attempts) := by
  refine (Client.paired_debug watches.tells _ _).follow fun _ => ?_
  refine (Client.paired_send watches rfl).follow fun response => ?_
  refine (Client.paired_ofExcept_self _).follow fun checked => ?_
  refine (Client.paired_ofExcept_self _).follow fun document => ?_
  refine (Client.paired_ofExcept_self _).follow fun endpoints => ?_
  exact Client.paired_pure rfl

theorem Provider.paired_register {key other : AccountKey} (keys : key.Alike other)
    (provider : Provider) (realm : String) (contact : Json) :
    Client.Paired related related (fun account twin => account.realm = realm ∧ account.Alike twin)
      (provider.register realm contact key) (provider.register realm contact other) := by
  refine (Client.paired_ofExcept_self _).follow fun items => ?_
  refine (Provider.paired_request watches
    (Provider.paired_sealing watches keys _ _ _ _ _) none).follow fun response => ?_
  refine (Client.paired_ofExcept_self _).follow fun url => ?_
  refine (Client.paired_ofExcept_self _).follow fun document => ?_
  refine (Client.paired_ofExcept_self _).follow fun resource => ?_
  refine (Client.paired_info watches.tells _ _).follow fun _ => ?_
  exact Client.paired_pure ⟨rfl, rfl, rfl, keys, rfl, rfl⟩

theorem Account.paired_order {account other : Account} (alike : account.Alike other)
    (primary others : Json) : Client.Paired related related Order.Alike
      (account.order primary others) (other.order primary others) := by
  obtain ⟨provider, realm, key, resource, url⟩ := account
  obtain ⟨_, _, keyToo, _, _⟩ := other
  obtain ⟨rfl, rfl, keys, rfl, rfl⟩ := alike
  refine (Client.paired_ofExcept_self _).follow fun names => ?_
  refine (Provider.paired_request watches
    (Provider.paired_sealing watches keys _ _ _ _ _) none).follow fun response => ?_
  refine (Client.paired_ofExcept_self _).follow fun orderUrl => ?_
  refine (Client.paired_ofExcept_self _).follow fun document => ?_
  refine (Client.paired_ofExcept_self _).follow fun resource => ?_
  refine (Client.paired_info watches.tells _ _).follow fun _ => ?_
  exact Client.paired_pure ⟨⟨rfl, rfl, keys, rfl, rfl⟩, rfl, rfl⟩

omit watches in
theorem Account.paired_readText {entry : Storage.Key}
    (reads : ∀ {left right}, related left right → left.storage.get entry = right.storage.get entry) :
    Client.Paired related related Eq (Account.readText entry) (Account.readText entry) := by
  refine (Client.paired_readEntry reads).follow fun found => ?_
  cases found <;> exact Client.paired_pure rfl

theorem Account.paired_certificate {account other : Account} (alike : account.Alike other)
    (reads : ∀ kind, kind ≠ .accountPrivateKey → ∀ name {left right}, related left right →
      left.storage.get ⟨account.realm, kind, name⟩ = right.storage.get ⟨account.realm, kind, name⟩)
    (name : String) :
    Client.Paired related related Eq (account.certificate name) (other.certificate name) := by
  simp only [Account.certificate, ← alike.realm]
  refine (Client.paired_debug watches.tells _ _).follow fun _ => ?_
  refine (Account.paired_readText (reads .privateKey (by decide) name)).follow fun privateKey => ?_
  refine (Client.paired_debug watches.tells _ _).follow fun _ => ?_
  refine (Account.paired_readText (reads .certificate (by decide) name)).follow fun chain => ?_
  exact Client.paired_pure rfl

end

/-- What the log shows of a key is the same for all keys. -/
theorem AccountKey.redact_publicJson (key : AccountKey) :
    Redaction.redact (.ofJson key.publicJson) =
      .map [(.text "crv", .text curveName), (.text "kty", .text "EC"), (.text "x", .text Redaction.mark),
        (.text "y", .text Redaction.mark)] := by
  simp [publicJson, publicMembers, coordinate, Datum.ofJson, Datum.ofJson.ofMembers, Redaction.redact,
    Datum.find?, Redaction.redactKey, Redaction.isSecretName, Redaction.secretNames]

theorem AccountKey.length_toPem_congr (key other : AccountKey) :
    key.toPem.length = other.toPem.length := KeyFile.length_write_congr key.secret other.secret

/-- The storages of two clients that may have stored different keys for a realm. -/
def Storage.KeyVeiled (realm : String) (first second : P256.PrivateKey) : Storage → Storage → Prop :=
  Storage.Veiled (Provider.accountEntry realm) (AccountKey.ofSecret first).toPem
    (AccountKey.ofSecret second).toPem

variable {first second : P256.PrivateKey} {left right : World} {realm : String}

theorem World.Twins.keyVeiled (twins : World.Twins Storage.Shared left right) :
    World.Twins (Storage.KeyVeiled realm first second) left right := by
  refine twins.mono fun storage => ?_
  rw [storage.1]
  exact Storage.veiled_self storage.2 (AccountKey.length_toPem_congr _ _)

theorem Client.paired_generateKey_of_undecided (first second : P256.PrivateKey) :
    Client.Paired (World.Undecided first second) (World.Twins Storage.Shared)
      (fun key other => key = first ∧ other = second) Client.generateKey Client.generateKey :=
  Client.paired_generateKey fun undecided => ⟨⟨undecided.next, undecided.nextToo⟩,
    { undecided.toTwins with generated := congrArg (· + 1) undecided.generated }⟩

theorem Client.paired_writeEntry_key (realm : String) (first second : P256.PrivateKey) :
    Client.Paired (World.Twins Storage.Shared) (World.Twins (Storage.KeyVeiled realm first second)) Eq
      (Client.writeEntry (Provider.accountEntry realm) (AccountKey.ofSecret first).toPem)
      (Client.writeEntry (Provider.accountEntry realm) (AccountKey.ofSecret second).toPem) := by
  refine Client.paired_writeEntry (Client.watches_twins _).tells fun {left right} twins => ?_
  have stored : Storage.KeyVeiled realm first second left.storage right.storage :=
    twins.keyVeiled.storage
  obtain ⟨after, afterToo, result, ran, ranToo, veiled⟩ := stored.put
  rw [ran, ranToo]
  exact ⟨rfl, veiled.keepsFiles.symm, { twins with storage := veiled }⟩

theorem Provider.paired_accountKey_of_undecided (realm : String) (first second : P256.PrivateKey) :
    Client.Paired (World.Undecided first second) (World.Twins (Storage.KeyVeiled realm first second))
      AccountKey.Alike (accountKey realm) (accountKey realm) := by
  have watches := Client.watches_undecided first second
  have watchesToo := Client.watches_twins (Storage.KeyVeiled realm first second)
  have veils {left right : World} (undecided : World.Undecided first second left right) :
      World.Twins (Storage.KeyVeiled realm first second) left right := undecided.keyVeiled
  have reads : Client.Paired (World.Undecided first second) (World.Undecided first second) Eq
      (Client.readEntry (accountEntry realm)) (Client.readEntry (accountEntry realm)) :=
    Client.paired_readEntry fun undecided => by rw [undecided.storage.1]
  unfold accountKey
  refine reads.bind ?_ veils
  rintro found _ rfl
  cases found with
  | some pem =>
      refine Client.Paired.mono ?_ veils
      refine (Client.paired_debug watches.tells _ _).follow fun _ => ?_
      cases AccountKey.ofPem pem with
      | error fault => exact Client.paired_throw _
      | ok key => exact Client.paired_pure rfl
  | none =>
      refine (Client.paired_generateKey_of_undecided first second).bind ?_ fun twins => twins.keyVeiled
      rintro secret secretToo ⟨rfl, rfl⟩
      refine (Client.paired_writeEntry_key realm secret secretToo).bind (fun _ _ _ => ?_) id
      simp only [AccountKey.redact_publicJson]
      exact (Client.paired_info watchesToo.tells _ _).follow fun _ => Client.paired_pure rfl

theorem Provider.paired_account (provider : Provider) (email : String) (first second : P256.PrivateKey) :
    Client.Paired (World.Undecided first second) (World.Twins (Storage.KeyVeiled email first second))
      (fun account twin => account.realm = email ∧ account.Alike twin) (provider.account email)
      (provider.account email) := by
  rw [Provider.account, Provider.accountOfRealm_eq]
  exact (Provider.paired_accountKey_of_undecided email first second).bind
    (fun _ _ keys => Provider.paired_register (Client.watches_twins _) keys provider _ _) id

/-- No other entry of the realm is where its account's key is. -/
theorem Storage.KeyVeiled.get {s other : Storage} (veiled : Storage.KeyVeiled realm first second s other)
    {kind : Storage.Kind} (differs : kind ≠ .accountPrivateKey) (name : String) :
    s.get ⟨realm, kind, name⟩ = other.get ⟨realm, kind, name⟩ := by
  have apart : Storage.Key.fileName ⟨realm, kind, name⟩ ≠ (Provider.accountEntry realm).fileName :=
    Storage.Key.fileName_ne_of_kind rfl rfl differs
  exact (Storage.Veiled.get veiled apart).symm

end AcmeClient
