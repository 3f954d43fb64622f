import AcmeClient.Client.Request
import AcmeClient.Logging.Redaction
import AcmeClient.Resource.Account
import AcmeClient.Resource.Order
import AcmeClient.Settings.Basic

namespace AcmeClient

namespace Provider

def ofUrl (url : String) (attempts : Int) : Client Provider := do
  Client.debug "acmelib.directory" s!"Fetching directory {url}"
  let response ← check (← Client.send (.get (.str url)))
  let endpoints ← ofExcept (Resource.Directory.ofJson (← ofExcept response.json))
  return ⟨endpoints, attempts⟩

def transportOf (settings : Settings) : Transport where
  timeout := .exact settings.timeout
  userAgent := match settings.userAgent with
    | none | some "" => Transport.defaultUserAgent
    | some userAgent => userAgent

def setUp (settings : Settings) : Client Unit := do
  modify fun world => { world with
    storage := { world.storage with backend := .ofPath settings.storagePath } }
  Client.setUp (transportOf settings)

def ofSettings (settings : Settings) : Client Provider :=
  ofUrl settings.directoryUrl settings.attempts

def accountKeyName : String := "acme_account"

def accountEntry (realm : String) : Storage.Key := ⟨realm, .accountPrivateKey, accountKeyName⟩

/-- The key that is stored for a realm. Where there is none, a fresh one is stored first. -/
def accountKey (realm : String) : Client AccountKey := do
  let entry := accountEntry realm
  match ← Client.readEntry entry with
  | some pem =>
    Client.debug "acmelib.directory" s!"Read account key: {entry.text}"
    match AccountKey.ofPem pem with
    | .ok key => return key
    | .error fault => throw (.fault fault)
  | none =>
    let key := AccountKey.ofSecret (← Client.generateKey)
    Client.writeEntry entry key.toPem
    let shown := (Redaction.redact (.ofJson key.publicJson)).display
    Client.info "acmelib.directory"
      s!"Created new account key {entry.text}: {String.ofList shown}"
    return key

end Provider

structure Account where
  provider : Provider
  realm : String
  key : AccountKey
  resource : Resource.Account
  url : String
deriving Repr

structure Order where
  account : Account
  resource : Resource.Order
  url : String
deriving Repr

structure Certificate where
  privateKey : String
  chain : String
deriving DecidableEq, Repr

namespace Provider

/-- What a registration says: that the terms are agreed to, and how to reach the owner. -/
def registration (contact : List Json) : Json :=
  .obj [("termsOfServiceAgreed", .bool true), ("contact", .arr contact)]

def sealed (url : Json) (key : AccountKey) (sender : Sender) (content : Json) (nonce : String) :
    Client (Json × Bytes) :=
  match Envelope.sign key sender (.str nonce) url (some content) with
  | .ok envelope => return (url, envelope.bytes)
  | .error fault => throw (.fault fault)

/-- Registers the account of a realm, or finds it registered. -/
def accountOfRealm (provider : Provider) (realm : String) (contact : Json) : Client Account := do
  let key ← accountKey realm
  let content := registration (← ofExcept (Resource.elements contact))
  let url := provider.endpoints.newAccount
  let build (nonce : String) : Client (Json × Bytes) := do
    Client.debug "acmelib.directory" s!"Call new account endpoint: {url.asText}"
    sealed url key .publicKey content nonce
  let response ← provider.request build none
  let accountUrl ← expectHeader "Location" response
  let resource ← ofExcept (Resource.Account.ofJson (← ofExcept response.json))
  Client.info "acmelib.directory" s!"Using account {accountUrl} for realm {realm}"
  return ⟨provider, realm, key, resource, accountUrl⟩

/-- Registers the account of an owner with a mail address, which is its realm too. -/
def account (provider : Provider) (email : String) : Client Account :=
  provider.accountOfRealm email (.arr [.str s!"mailto:{email}"])

end Provider

namespace Account

/-- The names that are added to the first one. A text is no list of names. -/
def otherNames (names : Json) : Except Failure (List Json) :=
  match names with
  | .str s => .error (.defect (.namesAsText (Text.quotedString s)))
  | names =>
    match names.elements? with
    | some names => .ok names
    | none => .error (.defect (.notSpreadable names.kind))

/-- Orders a certificate for a name and further ones, in this order. -/
def order (account : Account) (primary : Json) (others : Json) : Client Order := do
  let names := primary :: (← ofExcept (otherNames others))
  let content := Resource.Order.request (names.map .dns)
  let provider := account.provider
  let url := provider.endpoints.newOrder
  let build (nonce : String) : Client (Json × Bytes) := do
    Client.debug "acmelib.account" s!"Call new order endpoint: {url.asText}"
    Provider.sealed url account.key (.account (.str account.url)) content nonce
  let response ← provider.request build none
  let orderUrl ← Provider.expectHeader "Location" response
  let resource ← ofExcept (Resource.Order.ofJson (← ofExcept response.json))
  Client.info "acmelib.account" s!"Created order {orderUrl} for {names.length} identifier(s)"
  return ⟨account, resource, orderUrl⟩

/-- The text of an entry, if it is there and is text. -/
def readText (entry : Storage.Key) : Client (Option String) := do
  match ← Client.readEntry entry with
  | none => return none
  | some bytes => return (Text.Utf8.decode bytes).toOption.map String.ofList

/-- The certificate that is kept for a name. Both entries are read, whatever the first one holds. -/
def certificate (account : Account) (name : String) : Client (Option Certificate) := do
  let keyEntry : Storage.Key := ⟨account.realm, .privateKey, name⟩
  Client.debug "acmelib.account" s!"Read private key: {keyEntry.text}"
  let privateKey ← readText keyEntry
  let chainEntry : Storage.Key := ⟨account.realm, .certificate, name⟩
  Client.debug "acmelib.account" s!"Read certificate: {chainEntry.text}"
  let chain ← readText chainEntry
  return match privateKey, chain with
    | some privateKey, some chain => some ⟨privateKey, chain⟩
    | _, _ => none

def privateKeyText (account : Account) : List Char :=
  account.key.toPem.map fun b => Char.ofNat b.toNat

def display (account : Account) : String :=
  s!"Account(contact_email={Text.quotedString account.realm}, url={Text.quotedString account.url})"

end Account

namespace Order

def statusText (order : Order) : String :=
  match order.resource.status with
  | some status => status.text
  | none => "None"

def display (order : Order) : String :=
  s!"Order(url={Text.quotedString order.url}, status={order.statusText})"

end Order

/-- Key material is not shown, and of the chain only its length. -/
def Certificate.display (c : Certificate) : String :=
  s!"Certificate(certificate={c.chain.length} chars, private_key=<redacted>)"

end AcmeClient
