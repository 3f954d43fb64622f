import AcmeClient.Assoc
import AcmeClient.Number.Decimal

/-!
JSON values. Integers and double precision numbers are kept apart, and the members of an object stand
in the order in which their names first appeared.
-/

namespace AcmeClient

inductive Json where
  | null
  | bool (b : Bool)
  | int (i : Int)
  | float (x : Binary64)
  | str (s : String)
  | arr (items : List Json)
  | obj (members : List (String × Json))
deriving Repr, Inhabited

namespace Json

def member? (name : String) : Json → Option Json
  | .obj members => Assoc.find? name members
  | _ => none

/-- Empty, zero and negative answers count as missing. -/
def isTruthy : Json → Bool
  | .null => false
  | .bool b => b
  | .int i => i != 0
  | .float x => !x.isZero
  | .str s => s != ""
  | .arr items => !items.isEmpty
  | .obj members => !members.isEmpty

def isNull : Json → Bool
  | .null => true
  | _ => false

end Json

end AcmeClient
