import AcmeClient.Json.Value
import AcmeClient.Text.Encoding

namespace AcmeClient.Json

def hexDigits (code : Nat) : List Char :=
  [Bytes.hexDigit (code / 4096 % 16), Bytes.hexDigit (code / 256 % 16),
    Bytes.hexDigit (code / 16 % 16), Bytes.hexDigit (code % 16)]

def writeCode (c : Char) : List Char :=
  let n := c.toNat
  if n < 0x10000 then '\\' :: 'u' :: hexDigits n
  else
    '\\' :: 'u' :: hexDigits (0xD800 + (n - 0x10000) / 1024) ++
      '\\' :: 'u' :: hexDigits (0xDC00 + (n - 0x10000) % 1024)

def writeChar (c : Char) : List Char :=
  if c = '"' then ['\\', '"']
  else if c = '\\' then ['\\', '\\']
  else if c = '\n' then ['\\', 'n']
  else if c = '\r' then ['\\', 'r']
  else if c = '\t' then ['\\', 't']
  else if c = '\x0c' then ['\\', 'f']
  else if c = '\x08' then ['\\', 'b']
  else if ' ' ≤ c ∧ c ≤ '~' then [c]
  else writeCode c

def writeString (s : String) : List Char :=
  '"' :: s.toList.flatMap writeChar ++ ['"']

def writeFloat : Binary64 → List Char
  | .nan => "NaN".toList
  | .infinite negative => Binary64.sign negative ++ "Infinity".toList
  | x => x.text

/-- What stands between the items of a list and between a name and its value, and whether every
item starts a new line. -/
structure Layout where
  comma : List Char
  colon : List Char
  broken : Bool
deriving DecidableEq, Repr

namespace Layout

/-- On one line, with a blank after each separator. -/
def spaced : Layout := ⟨", ".toList, ": ".toList, false⟩

/-- On one line, without blanks. -/
def compact : Layout := ⟨",".toList, ":".toList, false⟩

/-- On many lines, each level two blanks further in. -/
def indented : Layout := ⟨",".toList, ": ".toList, true⟩

def lineBreak (layout : Layout) (depth : Nat) : List Char :=
  if layout.broken then '\n' :: List.replicate (2 * depth) ' ' else []

end Layout

/-- Texts between brackets; without any, the brackets stand alone. -/
def bracketed (layout : Layout) (depth : Nat) (opening closing : Char)
    (parts : List (List Char)) : List Char :=
  match parts with
  | [] => [opening, closing]
  | first :: rest =>
    opening :: layout.lineBreak (depth + 1) ++ first
      ++ rest.flatMap (fun part => layout.comma ++ layout.lineBreak (depth + 1) ++ part)
      ++ layout.lineBreak depth ++ [closing]

/-- The text of a value that stands `depth` levels deep. -/
def writeAt (layout : Layout) (depth : Nat) : Json → List Char
  | .null => "null".toList
  | .bool b => (if b then "true" else "false").toList
  | .int i => signedDigits i
  | .float x => writeFloat x
  | .str s => writeString s
  | .arr values => bracketed layout depth '[' ']' (writeItems (depth + 1) values)
  | .obj members => bracketed layout depth '\x7b' '\x7d' (writeMembers (depth + 1) members)
where
  writeItems (depth : Nat) : List Json → List (List Char)
    | [] => []
    | value :: rest => writeAt layout depth value :: writeItems depth rest
  writeMembers (depth : Nat) : List (String × Json) → List (List Char)
    | [] => []
    | (name, value) :: rest =>
      (writeString name ++ layout.colon ++ writeAt layout depth value) :: writeMembers depth rest

def write (layout : Layout) (value : Json) : List Char := writeAt layout 0 value

/-- The members of an object in the order of their names. -/
def byName (members : List (String × Json)) : List (String × Json) :=
  members.mergeSort fun first second => first.1 ≤ second.1

theorem byName_of_pairwise {members : List (String × Json)}
    (ordered : members.Pairwise fun first second => first.1 ≤ second.1) : byName members = members :=
  List.mergeSort_of_pairwise (ordered.imp decide_eq_true)

end AcmeClient.Json
