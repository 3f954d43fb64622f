import AcmeClient.Fault
import AcmeClient.Resource.Directory
import AcmeClient.Text.LetterCase

namespace AcmeClient

inductive LogFormat where
  | text
  | json
deriving DecidableEq, Repr, Inhabited

def LogFormat.name : LogFormat → String
  | .text => "text"
  | .json => "json"

structure LogSettings where
  level : String := "INFO"
  format : LogFormat := .text
deriving DecidableEq, Repr, Inhabited

structure Settings where
  directoryUrl : String := Resource.stagingUrl
  userAgent : Option String := none
  timeout : Binary64 := .ofRatio false 30 1
  attempts : Int := 3
  storagePath : Option String := none
  logging : LogSettings := {}
deriving Repr, Inhabited

namespace Settings

abbrev Section := List (Datum × Datum)

/-- A named value. A value that stands for a collection around it is the section itself. -/
def Section.find? (name : String) (entries : Section) : Option Datum :=
  match Datum.find? name entries with
  | some (.again _) => some (.map entries)
  | found => found

mutual

def hasLongInteger : Datum → Bool
  | .int i => Nat.pow 10 Json.maxIntegerDigits ≤ i.natAbs
  | .list items | .tuple items | .set items => anyLong items
  | .map entries => anyEntryLong entries
  | _ => false

def anyLong : List Datum → Bool
  | [] => false
  | item :: rest => hasLongInteger item || anyLong rest

def anyEntryLong : List (Datum × Datum) → Bool
  | [] => false
  | (key, value) :: rest => hasLongInteger key || hasLongInteger value || anyEntryLong rest

end

def refuse (value : Datum) (cause : String → SettingFault) : Except Failure α :=
  if hasLongInteger value then .error (.defect (.longInteger none))
  else .error (.fault (.badSetting (cause (String.ofList value.display))))

def fail (cause : SettingFault) : Except Failure α := .error (.fault (.badSetting cause))

/-- A section is a mapping; a missing one is empty. -/
def readSection (name : String) (value : Datum) : Except Failure Section :=
  if !value.isTruthy then .ok []
  else
    match value with
    | .map entries => .ok entries
    | other => fail (.notMapping name other.kind)

def readAttempts : Option Datum → Except Failure Int
  | none => .ok 3
  | some (.int count) => if count < 1 then refuse (.int count) .badAttempts else .ok count
  | some value => refuse value .badAttempts

/-- A time limit is a positive number. What is no number at all by the rules of arithmetic is not
refused. -/
def checkTimeout : Option Datum → Except Failure Datum
  | none => .ok (.float (.ofRatio false 30 1))
  | some (.int count) => if count ≤ 0 then refuse (.int count) .badTimeout else .ok (.int count)
  | some (.float x) => if x.isNonpositive then refuse (.float x) .badTimeout else .ok (.float x)
  | some value => refuse value .badTimeout

def toSeconds : Datum → Except Failure Binary64
  | .float x => .ok x
  | .int count =>
    match Binary64.ofInt? count with
    | some x => .ok x
    | none => .error (.defect .hugeInteger)
  | _ => .error (.defect .hugeInteger)

def readText (name : String) (value : Option Datum) : Except Failure (Option String) :=
  match value with
  | none | some .null => .ok none
  | some (.text s) => .ok (some s)
  | some other => fail (.notText name other.kind)

/-- An address is a text and not empty; without one, the provider for trials is used. -/
def readUrl : Option Datum → Except Failure String
  | none => .ok Resource.stagingUrl
  | value => do
    match ← readText "directory_url" value with
    | none | some "" => fail .emptyUrl
    | some url => return url

def readFormat : Option Datum → Except Failure LogFormat
  | none => .ok .text
  | some (.text "text") => .ok .text
  | some (.text "json") => .ok .json
  | some value => refuse value .unknownFormat

/-- A level is any text, in capitals. -/
def readLevel : Option Datum → Except Failure String
  | none => .ok "INFO"
  | some (.text s) => .ok (Text.upperString s)
  | some other => fail (.notText "logging.level" other.kind)

def readLogging (value : Datum) : Except Failure LogSettings := do
  let entries ← readSection "logging" value
  let level ← readLevel (entries.find? "level")
  let format ← readFormat (entries.find? "format")
  return { level, format }

def ofDatum (value : Datum) : Except Failure Settings := do
  let entries ← readSection "configuration root" value
  let attempts ← readAttempts (entries.find? "nonce_retry_attempts")
  let timeout ← checkTimeout (entries.find? "timeout_seconds")
  let directoryUrl ← readUrl (entries.find? "directory_url")
  let userAgent ← readText "user_agent" (entries.find? "user_agent")
  let timeout ← toSeconds timeout
  let storagePath ← readText "storage_path" (entries.find? "storage_path")
  let logging ← readLogging ((entries.find? "logging").getD .null)
  return { directoryUrl, userAgent, timeout, attempts, storagePath, logging }

end Settings

end AcmeClient
