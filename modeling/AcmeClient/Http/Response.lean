import AcmeClient.Fault
import AcmeClient.Text.LetterCase

namespace AcmeClient

/-- A completed exchange. Header names stand once each, in order of first appearance. The room is what
its reader has left for brackets in the body. -/
structure Response where
  status : Int
  headers : List (String × String)
  body : Bytes
  [room : Json.Room]
deriving DecidableEq, Repr, Inhabited

namespace Response

def isOk (r : Response) : Bool := 200 ≤ r.status && r.status < 300

def header? (name : String) (r : Response) : Option String :=
  let wanted := Text.lowerString name
  (r.headers.find? fun field => Text.lowerString field.1 == wanted).map Prod.snd

def expectHeader (name : String) (r : Response) : Except Failure String :=
  match r.header? name with
  | some value => if value = "" then .error (.fault (.missingHeader name)) else .ok value
  | none => .error (.fault (.missingHeader name))

def json (r : Response) : Except Failure Json :=
  match Json.read r.body r.room with
  | .ok value => .ok value
  | .error (.longInteger digitCount) => .error (.defect (.longInteger (some digitCount)))
  | .error (.tooDeep kind) => .error (.defect (.tooDeep kind))
  | .error e => .error (.fault (.unreadableBody e.message))

/-- The response itself, or the problem that it reports. A body that cannot be read reports nothing
beyond the status. -/
def check (r : Response) : Except Failure Response :=
  if r.isOk then .ok r
  else
    match r.json with
    | .ok body => .error (.fault (.rejected (.ofBody body r.status)))
    | .error (.fault _) => .error (.fault (.rejected (.ofBody .null r.status)))
    | .error defect => .error defect

end Response

end AcmeClient
