import AcmeClient.Fault

namespace AcmeClient.Resource

/-- The members of a document, which must be an object. -/
def members (resource : String) (document : Json) : Except Failure (List (String × Json)) :=
  match document with
  | .obj members => .ok members
  | other => .error (.fault (.notObject resource other.kind))

/-- The value of a member; a missing one is null. -/
def member (name : String) (members : List (String × Json)) : Json :=
  (Assoc.find? name members).getD .null

/-- The elements of a member, none if it is missing. -/
def elements (value : Json) : Except Failure (List Json) :=
  if !value.isTruthy then .ok []
  else
    match value.elements? with
    | some items => .ok items
    | none => .error (.defect (.notIterable value.kind))

def choose (typeName : String) (all : List α) (text : α → String) (value : Json) :
    Except Defect α :=
  let fail : Except Defect α := .error (.unknownMember value.display typeName)
  match value with
  | .str s =>
    match all.find? fun choice => text choice == s with
    | some choice => .ok choice
    | none => fail
  | _ => fail

end AcmeClient.Resource
