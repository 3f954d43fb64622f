import AcmeClient.Resource.Basic

namespace AcmeClient.Resource

structure Directory where
  newNonce : Json
  newAccount : Json
  newOrder : Json
  revokeCert : Json
  keyChange : Json
  metadata : Json
deriving Repr, Inhabited

namespace Directory

def requiredNames : List String := ["newNonce", "newAccount", "newOrder"]

/-- Every required endpoint must be given; what is said of the provider itself may be missing. -/
def ofJson (document : Json) : Except Failure Directory := do
  let members ← members "Directory" document
  let missing := requiredNames.filter fun name => !(member name members).isTruthy
  if !missing.isEmpty then throw (.fault (.missingFields missing))
  let metadata := member "meta" members
  return {
    newNonce := member "newNonce" members
    newAccount := member "newAccount" members
    newOrder := member "newOrder" members
    revokeCert := member "revokeCert" members
    keyChange := member "keyChange" members
    metadata := if metadata.isTruthy then metadata else .obj [] }

/-- The document of a directory; optional members are left out if they are missing. -/
def toJson (d : Directory) : Json :=
  let optional (name : String) (value : Json) : List (String × Json) :=
    if value.isTruthy then [(name, value)] else []
  .obj ([("newNonce", d.newNonce), ("newAccount", d.newAccount), ("newOrder", d.newOrder)]
    ++ optional "revokeCert" d.revokeCert ++ optional "keyChange" d.keyChange
    ++ optional "meta" d.metadata)

end Directory

def productionUrl : String := "https://acme-v02.api.letsencrypt.org/directory"
def stagingUrl : String := "https://acme-staging-v02.api.letsencrypt.org/directory"

end AcmeClient.Resource
