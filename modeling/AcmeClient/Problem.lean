import AcmeClient.Datum

namespace AcmeClient

namespace ProblemKind

def urn (name : String) : String := "urn:ietf:params:acme:error:" ++ name

def accountDoesNotExist : String := urn "accountDoesNotExist"
def badCSR : String := urn "badCSR"
def badNonce : String := urn "badNonce"
def badPublicKey : String := urn "badPublicKey"
def badSignatureAlgorithm : String := urn "badSignatureAlgorithm"
def malformed : String := urn "malformed"
def rateLimited : String := urn "rateLimited"
def rejectedIdentifier : String := urn "rejectedIdentifier"
def serverInternal : String := urn "serverInternal"
def unauthorized : String := urn "unauthorized"
def unsupportedIdentifier : String := urn "unsupportedIdentifier"

def unnamed : String := "about:blank"

end ProblemKind

structure Problem where
  kind : String
  detail : String
  status : Int
  subproblems : Json
deriving Repr, Inhabited

namespace Problem

def contentType : String := "application/problem+json"

/-- A value, or an empty list in place of a missing one. -/
def orEmptyList (value : Json) : Json := if value.isTruthy then value else .arr []

/-- The text of a member, or a default in place of a missing one. -/
def memberText (name : String) (default : String) (members : List (String × Json)) : String :=
  let value := (Assoc.find? name members).getD .null
  if value.isTruthy then value.asText else default

def ofStatus (status : Int) : Problem :=
  ⟨ProblemKind.unnamed, s!"HTTP {status}", status, .arr []⟩

/-- The problem that a decoded body describes. The status is the response's, whatever the body says,
and a body that is no object describes nothing. -/
def ofBody (body : Json) (status : Int) : Problem :=
  match body with
  | .obj members =>
    { kind := memberText "type" ProblemKind.unnamed members
      detail := memberText "detail" s!"HTTP {status}" members
      status
      subproblems := orEmptyList ((Assoc.find? "subproblems" members).getD .null) }
  | _ => ofStatus status

/-- The document of a problem; subproblems are left out if there are none. -/
def toJson (p : Problem) : Json :=
  let shared := [("type", .str p.kind), ("detail", .str p.detail), ("status", .int p.status)]
  .obj (if p.subproblems.isTruthy then shared ++ [("subproblems", p.subproblems)] else shared)

def isBadNonce (p : Problem) : Bool := p.kind == ProblemKind.badNonce

def isRetryable (p : Problem) : Bool :=
  p.kind == ProblemKind.badNonce || p.kind == ProblemKind.rateLimited

def message (p : Problem) : String := s!"{p.kind} ({p.status}): {p.detail}"

end Problem

end AcmeClient
