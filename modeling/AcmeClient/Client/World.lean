import AcmeClient.Http.Exchange
import AcmeClient.Key.Account
import AcmeClient.Logging.Record
import AcmeClient.Storage.Basic

namespace AcmeClient

/-- A request to the peer. Addresses are what the peer gave as such, text or not. -/
inductive Call where
  | get (url : Json)
  | head (url : Json)
  | post (url : Json) (mediaType : String) (body : Bytes)
deriving Repr

namespace Call

def method : Call → Method
  | .get _ => .get
  | .head _ => .head
  | .post .. => .post

def url : Call → Json
  | .get url | .head url | .post url _ _ => url

end Call

abbrev Reply := Except Failure Response

structure World where
  /-- The replies to the next requests, in order. -/
  replies : List Reply
  /-- What requests meet when no reply is left. -/
  silence : Failure
  /-- The requests so far. -/
  calls : List Call
  storage : Storage
  /-- The keys that are generated, by the number of those before them. -/
  keySource : Nat → P256.PrivateKey
  generated : Nat
  /-- The log so far. -/
  records : List Logging.Record
  clock : Seconds
  /-- How requests were set up, each time that they were. -/
  transports : List Transport
  /-- What reads the text of a settings file. -/
  loader : Yaml.Loader := Yaml.load
  /-- Whether requests that get an error status are told in the log. -/
  tellsRefusals : Bool := false

/-- A computation of the client. What it did remains done when it fails. -/
abbrev Client := ExceptT Failure (StateM World)

namespace Client

def write (level : Int) (logger message : String) : Client Unit :=
  modify fun world => { world with
    records := world.records ++ [{ level, logger, template := message, created := world.clock }] }

def debug (logger message : String) : Client Unit := write Logging.Level.debug logger message

def info (logger message : String) : Client Unit := write Logging.Level.info logger message

def send (call : Call) : Client Response := do
  let world ← get
  match world.replies with
  | [] =>
    set { world with calls := world.calls ++ [call] }
    throw world.silence
  | reply :: replies =>
    set { world with calls := world.calls ++ [call], replies }
    match reply with
    | .ok response =>
      if world.tellsRefusals && !response.isOk then
        debug "acmelib.transport" (Transport.refusalLine call.method call.url response.status)
      return response
    | .error failure => throw failure

def generateKey : Client P256.PrivateKey := do
  let world ← get
  set { world with generated := world.generated + 1 }
  return world.keySource world.generated

def readEntry (key : Storage.Key) : Client (Option Bytes) := do
  match (← get).storage.get key with
  | .ok value => return value
  | .error failure => throw failure

/-- Stores an entry. Only what is stored in files is told in the log. -/
def writeEntry (key : Storage.Key) (value : Bytes) : Client Unit := do
  let world ← get
  let (storage, outcome) := world.storage.put key value
  set { world with storage }
  match outcome with
  | .error failure => throw failure
  | .ok () => if storage.keepsFiles then debug "acmelib.persist" s!"Persisted {key.text}"

def setUp (transport : Transport) : Client Unit :=
  modify fun world => { world with transports := world.transports ++ [transport] }

end Client

end AcmeClient
