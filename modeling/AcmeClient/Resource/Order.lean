import AcmeClient.Resource.Basic

namespace AcmeClient.Resource

inductive IdentifierType where
  | dns
  | ip
deriving DecidableEq, Repr, Inhabited

namespace IdentifierType

def all : List IdentifierType := [.dns, .ip]

def text : IdentifierType → String
  | .dns => "dns"
  | .ip => "ip"

def ofJson (value : Json) : Except Defect IdentifierType :=
  choose "IdentifierType" all text value

end IdentifierType

inductive OrderStatus where
  | pending
  | ready
  | processing
  | valid
  | invalid
deriving DecidableEq, Repr, Inhabited

namespace OrderStatus

def all : List OrderStatus := [.pending, .ready, .processing, .valid, .invalid]

def text : OrderStatus → String
  | .pending => "pending"
  | .ready => "ready"
  | .processing => "processing"
  | .valid => "valid"
  | .invalid => "invalid"

def ofJson (value : Json) : Except Defect OrderStatus :=
  choose "OrderStatus" all text value

end OrderStatus

structure Identifier where
  type : IdentifierType
  value : Json
deriving Repr, Inhabited

namespace Identifier

def dns (value : Json) : Identifier := ⟨.dns, value⟩

/-- Both members must be there, and the type must be known; the value is read as text. -/
def ofJson (document : Json) : Except Failure Identifier := do
  let members ← members "Identifier" document
  let bad (reason : String) : Failure := .fault (.badIdentifier document.display reason)
  match Assoc.find? "type" members with
  | none => throw (bad "'type'")
  | some type =>
    match IdentifierType.ofJson type with
    | .error defect => throw (bad defect.message)
    | .ok type =>
      match Assoc.find? "value" members with
      | none => throw (bad "'value'")
      | some value => return ⟨type, .str value.asText⟩

def toJson (i : Identifier) : Json :=
  .obj [("type", .str i.type.text), ("value", i.value)]

end Identifier

structure Order where
  identifiers : List Identifier
  status : Option OrderStatus
  expires : Json
  notBefore : Json
  notAfter : Json
  error : Json
  authorizations : List Json
  finalize : Json
  certificate : Json
deriving Repr, Inhabited

namespace Order

def readStatus (value : Json) : Except Failure (Option OrderStatus) :=
  if value.isNull then .ok none
  else
    match OrderStatus.ofJson value with
    | .ok status => .ok (some status)
    | .error _ => .error (.fault (.unknownStatus value.display))

/-- The status is looked at first, then the identifiers in order, then the authorizations. -/
def ofJson (document : Json) : Except Failure Order := do
  let members ← members "Order" document
  let status ← readStatus (member "status" members)
  let identifiers ← (← elements (member "identifiers" members)).mapM Identifier.ofJson
  let authorizations ← elements (member "authorizations" members)
  return {
    identifiers, status, authorizations
    expires := member "expires" members
    notBefore := member "notBefore" members
    notAfter := member "notAfter" members
    error := member "error" members
    finalize := member "finalize" members
    certificate := member "certificate" members }

def request (identifiers : List Identifier) : Json :=
  .obj [("identifiers", .arr (identifiers.map Identifier.toJson))]

end Order

end AcmeClient.Resource
