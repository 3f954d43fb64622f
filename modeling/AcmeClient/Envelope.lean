import AcmeClient.Key.Account

namespace AcmeClient

/-- How an envelope names its sender: by the public key itself, or by the address of an account. -/
inductive Sender where
  | publicKey
  | account (url : Json)
deriving Repr

structure Envelope where
  header : List Char
  content : List Char
  signature : List Char
deriving DecidableEq, Repr

namespace Envelope

def mediaType : String := "application/jose+json"

/-- A header tells the algorithm, the sender, the number used once, and the address. -/
def headerJson (key : AccountKey) (sender : Sender) (nonce url : Json) : Json :=
  let name := match sender with
    | .publicKey => ("jwk", key.publicJson)
    | .account url => ("kid", url)
  .obj [("alg", .str AccountKey.algorithm), name, ("nonce", nonce), ("url", url)]

/-- The text of a value in which every integer can be written out. -/
def encodeJson (value : Json) : List Char :=
  Base64.encodeUrl (Text.Utf8.encode (Json.write .compact value))

/-- A request without content is asked for by an empty part. -/
def encodeContent : Option Json → List Char
  | none => []
  | some value => encodeJson value

/-- What is signed: header and content with a full stop between them. -/
def signedText (header content : List Char) : List Char := header ++ '.' :: content

def sign (key : AccountKey) (sender : Sender) (nonce url : Json) (content : Option Json) :
    Except Fault Envelope := do
  let header := encodeJson (headerJson key sender nonce url)
  let content := encodeContent content
  let signature ← key.sign (Text.Utf8.encode (signedText header content))
  return ⟨header, content, Base64.encodeUrl signature⟩

def toJson (e : Envelope) : Json :=
  .obj [("protected", .str (String.ofList e.header)), ("payload", .str (String.ofList e.content)),
    ("signature", .str (String.ofList e.signature))]

def bytes (e : Envelope) : Bytes := Text.Utf8.encode (Json.write .spaced e.toJson)

end Envelope

end AcmeClient
