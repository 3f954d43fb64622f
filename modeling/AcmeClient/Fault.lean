import AcmeClient.Json.Reader
import AcmeClient.Logging.Template
import AcmeClient.Problem
import AcmeClient.Yaml.Value

/-!
What can go wrong. A `Fault` is a failure that the client reports: it belongs to an area, has a
detail text, and says whether another try may help. A `Defect` is a failure outside these areas,
which the client does not foresee; a `Failure` is either.
-/

namespace AcmeClient

/-- The part of the client that a reported failure belongs to. -/
inductive Area where
  | general
  | transport
  | protocol
  | signing
  | storage
  | settings
  | problem
deriving DecidableEq, Repr

inductive SettingFault where
  | notMapping (name kind : String)
  | notText (name kind : String)
  | unknownFormat (shown : String)
  | badAttempts (shown : String)
  | badTimeout (shown : String)
  | emptyUrl
deriving DecidableEq, Repr

def SettingFault.message : SettingFault → String
  | .notMapping name kind => s!"{name} must be a mapping, got {kind}"
  | .notText name kind => s!"{name} must be a string, got {kind}"
  | .unknownFormat shown => s!"logging.format must be one of ['json', 'text'], got {shown}"
  | .badAttempts shown => s!"nonce_retry_attempts must be a positive integer, got {shown}"
  | .badTimeout shown => s!"timeout_seconds must be positive, got {shown}"
  | .emptyUrl => "directory_url must be a non-empty string"

inductive Fault where
  /-- A failure that another party describes. -/
  | reported (area : Area) (detail : String) (retryable : Bool)
  | noResponse (method url reason : String)
  | unreadableBody (reason : String)
  | missingHeader (name : String)
  | notObject (resource kind : String)
  | missingFields (names : List String)
  | badIdentifier (shown reason : String)
  | unknownStatus (shown : String)
  | unreadableKey
  | foreignKey
  | refusedSignature (reason : String)
  | unreadableEntry (path reason : String)
  | unwritableEntry (path reason : String)
  | unreadableSettings (path reason : String)
  | malformedSettings (path reason : String)
  | badSetting (cause : SettingFault)
  | rejected (problem : Problem)
deriving Repr, Inhabited

namespace Fault

def area : Fault → Area
  | .reported area _ _ => area
  | .noResponse .. => .transport
  | .unreadableBody _ | .missingHeader _ | .notObject .. | .missingFields _ | .badIdentifier ..
  | .unknownStatus _ => .protocol
  | .unreadableKey | .foreignKey | .refusedSignature _ => .signing
  | .unreadableEntry .. | .unwritableEntry .. => .storage
  | .unreadableSettings .. | .malformedSettings .. | .badSetting _ => .settings
  | .rejected _ => .problem

def detail : Fault → String
  | .reported _ detail _ => detail
  | .noResponse method url reason => s!"{method} {url} failed: {reason}"
  | .unreadableBody reason => s!"Response body is not valid JSON: {reason}"
  | .missingHeader name => s!"Response is missing required header '{name}'"
  | .notObject resource kind => s!"{resource} must be a JSON object, got {kind}"
  | .missingFields names =>
    "Directory is missing required field(s): " ++ ", ".intercalate names
  | .badIdentifier shown reason => s!"Invalid identifier {shown}: {reason}"
  | .unknownStatus shown => s!"Unknown order status {shown}"
  | .unreadableKey => "Invalid account key PEM: no private key can be read from it"
  | .foreignKey => "Account key must be an EC P-256 private key"
  | .refusedSignature reason => s!"Signing failed: {reason}"
  | .unreadableEntry path reason => s!"Failed to read '{path}': {reason}"
  | .unwritableEntry path reason => s!"Failed to write '{path}': {reason}"
  | .unreadableSettings path reason => s!"Cannot read configuration file '{path}': {reason}"
  | .malformedSettings path reason => s!"Invalid YAML in '{path}': {reason}"
  | .badSetting cause => cause.message
  | .rejected problem => problem.detail

/-- The detail, before which a rejection has its kind and status. -/
def message : Fault → String
  | .rejected problem => problem.message
  | fault => fault.detail

def isRetryable : Fault → Bool
  | .reported _ _ retryable => retryable
  | .noResponse .. => true
  | .rejected problem => problem.isRetryable
  | _ => false

end Fault

/-- Failures outside the reported ones. -/
inductive Defect where
  /-- An integer with more digits than are converted; the count is known while reading. -/
  | longInteger (digitCount : Option Nat)
  | hugeInteger
  /-- A body nests deeper than there is room for. -/
  | tooDeep (kind : String)
  | undecodable (e : Text.DecodeError)
  | unloadable (fault : Yaml.Fault)
  | notIterable (kind : String)
  | notSpreadable (kind : String)
  | namesAsText (shown : String)
  | tooFewAttempts (count : Int)
  | unknownUrlKind (shown : String)
  | garbledExchange (reason : String)
  /-- What was fetched from an address that is none of the web has no status to compare. -/
  | noStatus
  | unknownMember (shown typeName : String)
  | nullInPath
  | longFileName (shown : String)
  /-- A path may not be looked at. -/
  | unsearchable (reason : String)
  | unknownLevel (shown : String)
  | levelNotNumber (shown : String)
  | template (fault : Logging.TemplateFault)
  | timestamp (fault : TimestampFault)
deriving DecidableEq, Repr

namespace Defect

def message : Defect → String
  | .longInteger (some digitCount) => (Json.ReadError.longInteger digitCount).message
  | .longInteger none => Json.longIntegerMessage
  | .hugeInteger => "int too large to convert to float"
  | .tooDeep kind => (Json.ReadError.tooDeep kind).message
  | .undecodable e => e.message
  | .unloadable fault => fault.message
  | .notIterable kind => s!"'{kind}' object is not iterable"
  | .notSpreadable kind => s!"Value after * must be an iterable, not {kind}"
  | .namesAsText shown => s!"alt_names must be a sequence of names, not a string: {shown}"
  | .tooFewAttempts count => s!"max_attempts must be at least 1, got {count}"
  | .unknownUrlKind shown => s!"unknown url type: {shown}"
  | .garbledExchange reason => reason
  | .noStatus => "'<=' not supported between instances of 'int' and 'NoneType'"
  | .unknownMember shown typeName => s!"{shown} is not a valid {typeName}"
  | .nullInPath => "embedded null byte"
  | .longFileName shown => s!"[Errno 36] File name too long: {shown}"
  | .unsearchable reason => reason
  | .unknownLevel shown => s!"Unknown level: {shown}"
  | .levelNotNumber shown => s!"Level not an integer or a valid string: {shown}"
  | .template fault => fault.message
  | .timestamp fault => fault.message

end Defect

inductive Failure where
  | fault (fault : Fault)
  | defect (defect : Defect)
deriving Repr, Inhabited

namespace Failure

def message : Failure → String
  | .fault f => f.message
  | .defect d => d.message

end Failure

instance : Coe Fault Failure := ⟨.fault⟩
instance : Coe Defect Failure := ⟨.defect⟩

end AcmeClient
