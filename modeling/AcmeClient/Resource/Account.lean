import AcmeClient.Resource.Basic

namespace AcmeClient.Resource

structure Account where
  status : Json
  contact : List Json
  termsOfServiceAgreed : Bool
  orders : Json
deriving Repr, Inhabited

/-- An account without a status is valid. -/
def Account.ofJson (document : Json) : Except Failure Account := do
  let members ← members "Account" document
  let contact ← elements (member "contact" members)
  return {
    status := (Assoc.find? "status" members).getD (.str "valid")
    contact
    termsOfServiceAgreed := (member "termsOfServiceAgreed" members).isTruthy
    orders := member "orders" members }

end AcmeClient.Resource
