import AcmeClient.Calendar
import AcmeClient.Json.Value
import AcmeClient.Text.Quoted

namespace AcmeClient

/-- `again` stands for a list or mapping inside itself. -/
inductive Datum where
  | null
  | bool (b : Bool)
  | int (i : Int)
  | float (x : Binary64)
  | text (s : String)
  | bytes (b : Bytes)
  | date (d : Date)
  | moment (m : Moment)
  | list (items : List Datum)
  | tuple (items : List Datum)
  | set (items : List Datum)
  | map (entries : List (Datum × Datum))
  | again (isList : Bool)
deriving Repr, Inhabited

namespace Datum

def ofJson : Json → Datum
  | .null => .null
  | .bool b => .bool b
  | .int i => .int i
  | .float x => .float x
  | .str s => .text s
  | .arr items => .list (ofItems items)
  | .obj members => .map (ofMembers members)
where
  ofItems : List Json → List Datum
    | [] => []
    | item :: rest => ofJson item :: ofItems rest
  ofMembers : List (String × Json) → List (Datum × Datum)
    | [] => []
    | (name, value) :: rest => (.text name, ofJson value) :: ofMembers rest

def kind : Datum → String
  | .null => "NoneType"
  | .bool _ => "bool"
  | .int _ => "int"
  | .float _ => "float"
  | .text _ => "str"
  | .bytes _ => "bytes"
  | .date _ => "date"
  | .moment _ => "datetime"
  | .list _ => "list"
  | .tuple _ => "tuple"
  | .set _ => "set"
  | .map _ => "dict"
  | .again isList => if isList then "list" else "dict"

/-- Empty, zero and negative answers count as missing. -/
def isTruthy : Datum → Bool
  | .null => false
  | .bool b => b
  | .int i => i != 0
  | .float x => !x.isZero
  | .text s => s != ""
  | .bytes b => !b.isEmpty
  | .date _ | .moment _ => true
  | .list items | .tuple items | .set items => !items.isEmpty
  | .map entries => !entries.isEmpty
  | .again _ => true

def find? (name : String) : List (Datum × Datum) → Option Datum
  | [] => none
  | (.text other, value) :: rest => if other = name then some value else find? name rest
  | _ :: rest => find? name rest

def commaList (parts : List (List Char)) : List Char := [',', ' '].intercalate parts

def display : Datum → List Char
  | .null => "None".toList
  | .bool b => (if b then "True" else "False").toList
  | .int i => signedDigits i
  | .float x => x.text
  | .text s => Text.quoted s.toList
  | .bytes b => Text.quotedBytes b
  | .date d => d.display.toList
  | .moment m => m.display.toList
  | .list items => '[' :: commaList (displayItems items) ++ [']']
  | .tuple items =>
    '(' :: commaList (displayItems items) ++ (if items.length = 1 then [',', ')'] else [')'])
  | .set items =>
    if items.isEmpty then "set()".toList
    else '\x7b' :: commaList (displayItems items) ++ ['\x7d']
  | .map entries => '\x7b' :: commaList (displayEntries entries) ++ ['\x7d']
  | .again isList => if isList then "[...]".toList else ['\x7b', '.', '.', '.', '\x7d']
where
  displayItems : List Datum → List (List Char)
    | [] => []
    | item :: rest => display item :: displayItems rest
  displayEntries : List (Datum × Datum) → List (List Char)
    | [] => []
    | (key, value) :: rest =>
      (display key ++ ':' :: ' ' :: display value) :: displayEntries rest

end Datum

namespace Json

def kind : Json → String
  | .null => "NoneType"
  | .bool _ => "bool"
  | .int _ => "int"
  | .float _ => "float"
  | .str _ => "str"
  | .arr _ => "list"
  | .obj _ => "dict"

theorem kind_ofJson (value : Json) : (Datum.ofJson value).kind = value.kind := by
  cases value <;> rfl

def display (value : Json) : String := String.ofList (Datum.ofJson value).display

/-- A text as it stands, and any other value as messages show it. -/
def asText : Json → String
  | .str s => s
  | value => value.display

/-- The elements of a list, the names of an object, or the characters of a text, in order; nothing
else can be gone through. -/
def elements? : Json → Option (List Json)
  | .arr items => some items
  | .obj members => some (members.map fun member => .str member.1)
  | .str s => some (s.toList.map fun c => .str (String.ofList [c]))
  | _ => none

end Json

end AcmeClient
