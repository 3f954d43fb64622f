import AcmeClient.Base64
import AcmeClient.Fault
import AcmeClient.Json.Writer
import AcmeClient.Key.File

namespace AcmeClient

/-- A private key, with the reason for which it refuses to sign, if it does. -/
structure AccountKey where
  secret : P256.PrivateKey
  refusal : Option String
deriving DecidableEq, Repr

namespace AccountKey

def algorithm : String := "ES256"

def curveName : String := "P-256"

def ofSecret (secret : P256.PrivateKey) : AccountKey := ⟨secret, none⟩

def ofPem (pem : Bytes) : Except Fault AccountKey :=
  match KeyFile.read? pem with
  | some (.p256 secret) => .ok (ofSecret secret)
  | some .other => .error .foreignKey
  | none => .error .unreadableKey

def toPem (key : AccountKey) : Bytes := KeyFile.write key.secret

def coordinate (n : Nat) : Json := .str (String.ofList (Base64.encodeUrl (Bytes.ofNat 32 n)))

/-- The members of a public key, by which it is known to the provider. -/
def publicMembers (point : P256.Point) : List (String × Json) :=
  [("crv", .str curveName), ("kty", .str "EC"), ("x", coordinate point.x), ("y", coordinate point.y)]

def publicJson (key : AccountKey) : Json := .obj (publicMembers key.secret.point)

/-- The text that a thumbprint is taken of: the members in alphabetical order, without blanks. -/
def canonicalText (point : P256.Point) : List Char :=
  Json.write .compact (.obj (Json.byName (publicMembers point)))

def thumbprint (key : AccountKey) : List Char :=
  Base64.encodeUrl (Sha256.digest (Text.Utf8.encode (canonicalText key.secret.point)))

/-- The two parts of a signature, one after the other. -/
def sign (key : AccountKey) (message : Bytes) : Except Fault Bytes :=
  match key.refusal with
  | some reason => .error (.refusedSignature reason)
  | none => .ok (P256.sign key.secret message).bytes

end AccountKey

end AcmeClient
