import AcmeClient.Json.Value
import AcmeClient.Text.Encoding

/-!
Reading JSON text. Beyond the standard, the numbers NaN, Infinity and -Infinity are read, and an
escaped half of a surrogate pair is read as the replacement character. The first mistake is reported
with its place; an integer of too many digits is a failure of its own, and so is a bracket for which there
is no room.
-/

namespace AcmeClient.Json

inductive Mistake where
  | noValue
  | noName
  | noColon
  | noComma
  | unterminated
  | controlCharacter
  | badEscape
  | badCode
  | extraData
deriving DecidableEq, Repr

def Mistake.message : Mistake → String
  | .noValue => "Expecting value"
  | .noName => "Expecting property name enclosed in double quotes"
  | .noColon => "Expecting ':' delimiter"
  | .noComma => "Expecting ',' delimiter"
  | .unterminated => "Unterminated string starting at"
  | .controlCharacter => "Invalid control character at"
  | .badEscape => "Invalid \\escape"
  | .badCode => "Invalid \\uXXXX escape"
  | .extraData => "Extra data"

/-- What stops a text from being read, at a number of characters from its start. -/
inductive TextFault where
  | mistake (what : Mistake) (position : Nat)
  | longInteger (digitCount : Nat)
  | tooDeep (kind : String)
deriving DecidableEq, Repr

/-- How many brackets may be open at once in what is read, if there is a limit. It depends on how much of
its stack the reader has left when it starts. -/
class Room where
  left : Option Nat
deriving DecidableEq, Repr

namespace Room

@[reducible] def ample : Room := ⟨none⟩

/-- There is no limit where none is given. -/
instance : Room := ample

/-- The room inside one more bracket. -/
def inner? (room : Room) : Option Room :=
  match room.left with
  | none => some ample
  | some 0 => none
  | some (more + 1) => some ⟨some more⟩

/-- Opens the bracket of a kind of value. -/
def enter (room : Room) (kind : String) : Except TextFault Room :=
  match room.inner? with
  | some inner => .ok inner
  | none => .error (.tooDeep kind)

end Room

structure Cursor where
  position : Nat
  rest : List Char

def isBlank (c : Char) : Bool := c == ' ' || c == '\t' || c == '\n' || c == '\r'

def skipBlank (position : Nat) : List Char → Cursor
  | [] => ⟨position, []⟩
  | c :: rest => if isBlank c then skipBlank (position + 1) rest else ⟨position, c :: rest⟩

def Cursor.skipBlank (c : Cursor) : Cursor := Json.skipBlank c.position c.rest

def Cursor.fail (c : Cursor) (what : Mistake) : Except TextFault α :=
  .error (.mistake what c.position)

def hexCode? (text : List Char) : Option Nat :=
  match text with
  | a :: b :: c :: d :: _ => do
    let a ← Bytes.hexValue? a
    let b ← Bytes.hexValue? b
    let c ← Bytes.hexValue? c
    let d ← Bytes.hexValue? d
    return 4096 * a + 256 * b + 16 * c + d
  | _ => none

def escapeLetter? : Char → Option Char
  | '"' => some '"'
  | '\\' => some '\\'
  | '/' => some '/'
  | 'b' => some '\x08'
  | 'f' => some '\x0c'
  | 'n' => some '\n'
  | 'r' => some '\r'
  | 't' => some '\t'
  | _ => none

/-- The character that the digits after an escape's u stand for, and how many characters after the
u it takes. A high half and the escaped low half after it make one character; at least one character
must follow each group of digits. -/
def codeEscape? (position : Nat) (text : List Char) : Except TextFault (Char × Nat) :=
  match hexCode? text, text.drop 4 with
  | none, _ | _, [] => .error (.mistake .badCode position)
  | some unit, after =>
    match Text.Utf16.isHigh unit, after with
    | true, '\\' :: 'u' :: low =>
      if low.length < 5 then .ok (Text.Utf16.single unit, 4)
      else
        match hexCode? low with
        | none => .error (.mistake .badCode (position + 6))
        | some next =>
          if Text.Utf16.isLow next then .ok (Char.ofNat (Text.Utf16.join unit next), 10)
          else .ok (Text.Utf16.single unit, 4)
    | _, _ => .ok (Text.Utf16.single unit, 4)

/-- The character of an escape whose backslash is at `position`, and how many characters after the
backslash it takes. -/
def escape? (opening position : Nat) : List Char → Except TextFault (Char × Nat)
  | [] => .error (.mistake .unterminated opening)
  | 'u' :: text => do
    let (c, taken) ← codeEscape? (position + 1) text
    return (c, taken + 1)
  | letter :: _ =>
    match escapeLetter? letter with
    | some c => .ok (c, 1)
    | none => .error (.mistake .badEscape position)

/-- The rest of a string whose opening quote is at `opening`, with the characters read so far last
one first, and `skip` characters to pass over. -/
def readString (opening position skip : Nat) (read : List Char) :
    List Char → Except TextFault (String × Cursor)
  | [] => .error (.mistake .unterminated opening)
  | c :: rest =>
    match skip with
    | skip + 1 => readString opening (position + 1) skip read rest
    | 0 =>
      if c = '"' then .ok (String.ofList read.reverse, ⟨position + 1, rest⟩)
      else if c = '\\' then do
        let (meant, taken) ← escape? opening position rest
        readString opening (position + 1) taken (meant :: read) rest
      else if c.toNat < 0x20 then .error (.mistake .controlCharacter position)
      else readString opening (position + 1) 0 (c :: read) rest

structure Numeral where
  negative : Bool
  whole : List Char
  fraction : List Char
  exponent : Option Int
  length : Nat
deriving DecidableEq, Repr

def takeDigits (text : List Char) : List Char := text.takeWhile Char.isDigit

/-- Zero, or digits of which the first is not zero. -/
def wholeDigits : List Char → List Char
  | '0' :: _ => ['0']
  | text => takeDigits text

def fractionDigits : List Char → List Char
  | '.' :: text => takeDigits text
  | _ => []

/-- An exponent, and how many characters it takes; without digits there is none. -/
def readExponent : List Char → Option Int × Nat
  | e :: text =>
    if e = 'e' ∨ e = 'E' then
      let signed := match text with
        | '-' :: _ | '+' :: _ => 1
        | _ => 0
      let exponentDigits := takeDigits (text.drop signed)
      if exponentDigits.isEmpty then (none, 0)
      else
        let size : Int := ofDigits exponentDigits
        (some (if text.head? = some '-' then -size else size), 1 + signed + exponentDigits.length)
    else (none, 0)
  | [] => (none, 0)

def Numeral.read? (text : List Char) : Option Numeral :=
  let negative := text.head? = some '-'
  let unsigned := if negative then text.drop 1 else text
  let whole := wholeDigits unsigned
  if whole.isEmpty then none
  else
    let afterWhole := unsigned.drop whole.length
    let fraction := fractionDigits afterWhole
    let pointed := if fraction.isEmpty then 0 else fraction.length + 1
    let (exponent, taken) := readExponent (afterWhole.drop pointed)
    some ⟨negative, whole, fraction, exponent,
      (if negative then 1 else 0) + whole.length + pointed + taken⟩

def maxIntegerDigits : Nat := 4300

/-- Whether an integer stands in a value that has too many digits to be shown. -/
def hasLongInteger : Json → Bool
  | .int i => Nat.pow 10 maxIntegerDigits ≤ i.natAbs
  | .arr items => anyLong items
  | .obj members => anyMemberLong members
  | _ => false
where
  anyLong : List Json → Bool
    | [] => false
    | item :: rest => hasLongInteger item || anyLong rest
  anyMemberLong : List (String × Json) → Bool
    | [] => false
    | (_, value) :: rest => hasLongInteger value || anyMemberLong rest

def longIntegerMessage : String :=
  s!"Exceeds the limit ({maxIntegerDigits} digits) for integer string conversion; use sys.set_int_max_str_digits() to increase the limit"

/-- Without fraction and exponent a number is an integer. -/
def Numeral.value (n : Numeral) : Except TextFault Json :=
  if n.fraction.isEmpty && n.exponent.isNone then
    if maxIntegerDigits < n.whole.length then .error (.longInteger n.whole.length)
    else
      let size : Int := ofDigits n.whole
      .ok (.int (if n.negative then -size else size))
  else
    .ok (.float (Binary64.ofDecimal n.negative (ofDigits (n.whole ++ n.fraction))
      (n.exponent.getD 0 - n.fraction.length)))

/-- The words that stand for values, with the longer ones first where one starts another. -/
def words : List (List Char × Json) := [
  ("null".toList, .null), ("true".toList, .bool true), ("false".toList, .bool false),
  ("NaN".toList, .float .nan), ("Infinity".toList, .float (.infinite false)),
  ("-Infinity".toList, .float (.infinite true))]

def readPlain (c : Cursor) : Except TextFault (Json × Cursor) :=
  match words.find? fun word => word.1.isPrefixOf c.rest with
  | some (word, value) =>
    .ok (value, ⟨c.position + word.length, c.rest.drop word.length⟩)
  | none =>
    match Numeral.read? c.rest with
    | none => c.fail .noValue
    | some n => do
      let value ← n.value
      return (value, ⟨c.position + n.length, c.rest.drop n.length⟩)

def readName (c : Cursor) : Except TextFault (String × Cursor) :=
  match c.rest with
  | '"' :: rest => do
    let (name, c) ← readString c.position (c.position + 1) 0 [] rest
    let c := c.skipBlank
    match c.rest with
    | ':' :: rest => return (name, skipBlank (c.position + 1) rest)
    | _ => c.fail .noColon
  | _ => c.fail .noName

mutual

/-- A value, given at least twice as many steps as there are characters. -/
def readValue (room : Room) : (steps : Nat) → Cursor → Except TextFault (Json × Cursor)
  | 0, c => c.fail .noValue
  | steps + 1, c =>
    match c.rest with
    | '"' :: rest => do
      let (s, c) ← readString c.position (c.position + 1) 0 [] rest
      return (.str s, c)
    | '[' :: rest => do
      let inner ← room.enter "array"
      let c := skipBlank (c.position + 1) rest
      match c.rest with
      | ']' :: rest => return (.arr [], ⟨c.position + 1, rest⟩)
      | _ =>
        let (items, c) ← readItems inner steps [] c
        return (.arr items, c)
    | '{' :: rest => do
      let inner ← room.enter "object"
      let c := skipBlank (c.position + 1) rest
      match c.rest with
      | '}' :: rest => return (.obj [], ⟨c.position + 1, rest⟩)
      | _ =>
        let (members, c) ← readMembers inner steps [] c
        return (.obj members, c)
    | _ => readPlain c

/-- The items up to the closing bracket, after those that have been read, last one first. -/
def readItems (room : Room) :
    (steps : Nat) → List Json → Cursor → Except TextFault (List Json × Cursor)
  | 0, _, c => c.fail .noValue
  | steps + 1, items, c => do
    let (value, c) ← readValue room steps c
    let c := c.skipBlank
    match c.rest with
    | ']' :: rest => return ((value :: items).reverse, ⟨c.position + 1, rest⟩)
    | ',' :: rest => readItems room steps (value :: items) (skipBlank (c.position + 1) rest)
    | _ => c.fail .noComma

/-- The members up to the closing brace, after those that have been read. -/
def readMembers (room : Room) : (steps : Nat) → List (String × Json) → Cursor →
    Except TextFault (List (String × Json) × Cursor)
  | 0, _, c => c.fail .noName
  | steps + 1, members, c => do
    let (name, c) ← readName c
    let (value, c) ← readValue room steps c
    let members := Assoc.insert name value members
    let c := c.skipBlank
    match c.rest with
    | '}' :: rest => return (members, ⟨c.position + 1, rest⟩)
    | ',' :: rest => readMembers room steps members (skipBlank (c.position + 1) rest)
    | _ => c.fail .noComma

end

def readText (text : List Char) (room : Room := .ample) : Except TextFault Json := do
  let (value, c) ← readValue room (2 * text.length + 2) (skipBlank 0 text)
  let c := c.skipBlank
  if c.rest.isEmpty then return value else c.fail .extraData

/-- Why a byte string is not read. A mistake has its line and column, both counted from one, and its
distance from the start. -/
inductive ReadError where
  | encoding (e : Text.DecodeError)
  | malformed (what : Mistake) (line column position : Nat)
  | longInteger (digitCount : Nat)
  | tooDeep (kind : String)
deriving DecidableEq, Repr

def ReadError.message : ReadError → String
  | .encoding e => e.message
  | .malformed what line column position =>
    s!"{what.message}: line {line} column {column} (char {position})"
  | .longInteger digitCount =>
    s!"Exceeds the limit ({maxIntegerDigits} digits) for integer string conversion: value has {digitCount} digits; use sys.set_int_max_str_digits() to increase the limit"
  | .tooDeep kind =>
    s!"maximum recursion depth exceeded while decoding a JSON {kind} from a unicode string"

def TextFault.locate (text : List Char) : TextFault → ReadError
  | .longInteger digitCount => .longInteger digitCount
  | .tooDeep kind => .tooDeep kind
  | .mistake what position =>
    let before := text.take position
    let line := before.reverse.takeWhile (· != '\n')
    .malformed what (before.count '\n' + 1) (line.length + 1) position

def read (bytes : Bytes) (room : Room := .ample) : Except ReadError Json :=
  match Text.decodeDetected bytes with
  | .error e => .error (.encoding e)
  | .ok text =>
    match readText text room with
    | .error fault => .error (fault.locate text)
    | .ok value => .ok value

end AcmeClient.Json
