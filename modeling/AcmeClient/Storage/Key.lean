import AcmeClient.Resource.Basic

namespace AcmeClient.Storage

inductive Kind where
  | accountPrivateKey
  | privateKey
  | certificate
deriving DecidableEq, Repr, Inhabited

namespace Kind

def all : List Kind := [.accountPrivateKey, .privateKey, .certificate]

def text : Kind → String
  | .accountPrivateKey => "account_private_key"
  | .privateKey => "private_key"
  | .certificate => "certificate"

def suffix : Kind → String
  | .certificate => ".crt"
  | _ => ".key"

def ofJson (value : Json) : Except Defect Kind :=
  Resource.choose "PersistKind" all text value

end Kind

/-- An entry belongs to a realm, by which accounts are told apart. -/
structure Key where
  realm : String
  kind : Kind
  name : String
deriving DecidableEq, Repr, Inhabited

namespace Key

/-- Stars, slashes and nulls have no place in a file name. -/
def flatten (c : Char) : Char :=
  if c = '*' ∨ c = '/' ∨ c = '\\' ∨ c = '\x00' then '_' else c

def label (key : Key) : List Char :=
  (key.realm.toList ++ '_' :: key.kind.text.toList ++ '_' :: key.name.toList).map flatten

def text (key : Key) : String := String.ofList key.label

def fileName (key : Key) : String := String.ofList (key.label ++ key.kind.suffix.toList)

end Key

end AcmeClient.Storage
