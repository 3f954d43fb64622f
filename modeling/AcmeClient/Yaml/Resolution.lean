import AcmeClient.Number.Decimal

namespace AcmeClient.Yaml

def standardTag (name : String) : String := "tag:yaml.org,2002:" ++ name

def dropMany (accepted : Char → Bool) (text : List Char) : List Char := text.dropWhile accepted

def dropOne? (accepted : Char → Bool) : List Char → Option (List Char)
  | c :: rest => if accepted c then some rest else none
  | [] => none

def isDigitOrLine (c : Char) : Bool := c.isDigit || c == '_'

/-- What is left after a sign, if there is one. -/
def dropSign (text : List Char) : List Char :=
  match text with
  | '-' :: rest | '+' :: rest => rest
  | _ => text

/-- Whether all characters belong to a class, and there is one. -/
def isRun (accepted : Char → Bool) (text : List Char) : Bool :=
  !text.isEmpty && text.all accepted

/-- One or two digits after a colon, below sixty. -/
def isSexagesimalPart (part : List Char) : Bool :=
  match part with
  | [a] => a.isDigit
  | [a, b] => '0' ≤ a && a ≤ '5' && b.isDigit
  | _ => false

def splitOn (mark : Char) : List Char → List (List Char)
  | [] => [[]]
  | c :: rest =>
    match splitOn mark rest with
    | [] => [[]]
    | part :: parts => if c = mark then [] :: part :: parts else (c :: part) :: parts

def isBoolWord (text : List Char) : Bool :=
  ["yes", "Yes", "YES", "no", "No", "NO", "true", "True", "TRUE", "false", "False", "FALSE",
    "on", "On", "ON", "off", "Off", "OFF"].contains (String.ofList text)

def isNullWord (text : List Char) : Bool :=
  ["", "~", "null", "Null", "NULL"].contains (String.ofList text)

/-- An exponent with a sign, or nothing. -/
def isExponentOrNothing (text : List Char) : Bool :=
  match text with
  | [] => true
  | mark :: sign :: rest =>
    (mark == 'e' || mark == 'E') && (sign == '-' || sign == '+') && isRun Char.isDigit rest
  | _ => false

/-- Digits with a point, an exponent, or parts of sixty before the point; or infinity and no
number. -/
def isFloatText (text : List Char) : Bool :=
  let unsigned := dropSign text
  let startsWithDigit := unsigned.head?.any Char.isDigit
  let afterWhole := unsigned.dropWhile isDigitOrLine
  let pointed := startsWithDigit && afterWhole.head? == some '.' &&
    isExponentOrNothing ((afterWhole.drop 1).dropWhile isDigitOrLine)
  let fraction := text.head? == some '.' && (text.drop 1).head?.any Char.isDigit &&
    isExponentOrNothing ((text.drop 1).dropWhile isDigitOrLine)
  let sexagesimal := startsWithDigit && unsigned.contains '.' &&
    (match splitOn ':' (unsigned.takeWhile (· != '.')) with
      | first :: part :: parts =>
        isRun isDigitOrLine first && (part :: parts).all isSexagesimalPart
      | _ => false) &&
    ((unsigned.dropWhile (· != '.')).drop 1).all isDigitOrLine
  let word := [".inf", ".Inf", ".INF"].contains (String.ofList unsigned) ||
    [".nan", ".NaN", ".NAN"].contains (String.ofList text)
  pointed || fraction || sexagesimal || word

/-- Digits in base two, eight, ten or sixteen, or parts of sixty. -/
def isIntText (text : List Char) : Bool :=
  match dropSign text with
  | '0' :: rest =>
    rest.isEmpty || isRun (fun c => ('0' ≤ c && c ≤ '7') || c == '_') rest ||
      (rest.head? == some 'b' && isRun (fun c => c == '0' || c == '1' || c == '_') (rest.drop 1)) ||
      (rest.head? == some 'x' &&
        isRun (fun c => isDigitOrLine c || ('a' ≤ c && c ≤ 'f') || ('A' ≤ c && c ≤ 'F'))
          (rest.drop 1))
  | first :: rest =>
    first.isDigit &&
      (match splitOn ':' rest with
        | whole :: parts => whole.all isDigitOrLine && parts.all isSexagesimalPart
        | [] => false)
  | [] => false

/-- The parts of a date, and of the time and zone after it, as they are written. -/
structure TimeText where
  year : List Char
  month : List Char
  day : List Char
  clock : Option (List Char × List Char × List Char)
  fraction : List Char
  zone : Option (Option (Bool × List Char × List Char))

/-- From `least` to `most` digits at the front. -/
def takeDigits? (least most : Nat) (text : List Char) : Option (List Char × List Char) :=
  let run := (text.take most).takeWhile Char.isDigit
  if run.length < least then none else some (run, text.drop run.length)

/-- A zone: a mark for universal time, or a sign with hours and perhaps minutes. -/
def readZone? (text : List Char) : Option (Option (Bool × List Char × List Char)) := do
  match text with
  | ['Z'] => return none
  | sign :: rest =>
    guard (sign = '-' ∨ sign = '+')
    let (hour, rest) ← takeDigits? 1 2 rest
    match rest with
    | [] => return some (sign == '-', hour, [])
    | ':' :: rest =>
      let (minute, rest) ← takeDigits? 2 2 rest
      guard rest.isEmpty
      return some (sign == '-', hour, minute)
    | _ => none
  | [] => none

def readClock? (text : List Char) :
    Option ((List Char × List Char × List Char) × List Char
      × Option (Option (Bool × List Char × List Char))) := do
  let isBlank (c : Char) : Bool := c == ' ' || c == '\t'
  let rest ← match text with
    | c :: rest =>
      if c = 'T' ∨ c = 't' then some rest
      else if isBlank c then some (rest.dropWhile isBlank) else none
    | [] => none
  let (hour, rest) ← takeDigits? 1 2 rest
  let rest ← dropOne? (· == ':') rest
  let (minute, rest) ← takeDigits? 2 2 rest
  let rest ← dropOne? (· == ':') rest
  let (second, rest) ← takeDigits? 2 2 rest
  let (fraction, rest) := match rest with
    | '.' :: rest => (rest.takeWhile Char.isDigit, rest.dropWhile Char.isDigit)
    | _ => ([], rest)
  if rest.isEmpty then return ((hour, minute, second), fraction, none)
  let zone ← readZone? (rest.dropWhile isBlank)
  return ((hour, minute, second), fraction, some zone)

/-- A date, or a date with a time. -/
def TimeText.read? (text : List Char) : Option TimeText := do
  let (year, rest) ← takeDigits? 4 4 text
  let rest ← dropOne? (· == '-') rest
  let (month, rest) ← takeDigits? 1 2 rest
  let rest ← dropOne? (· == '-') rest
  let (day, rest) ← takeDigits? 1 2 rest
  if rest.isEmpty then return { year, month, day, clock := none, fraction := [], zone := none }
  let (clock, fraction, zone) ← readClock? rest
  return { year, month, day, clock := some clock, fraction, zone }

def isTimeText (text : List Char) : Bool :=
  match TimeText.read? text with
  | none => false
  | some t => t.clock.isSome || (t.month.length == 2 && t.day.length == 2)

def resolve (written : String) : String :=
  let text := written.toList
  let text := if text.getLast? = some '\n' then text.dropLast else text
  if written.toList.isEmpty then standardTag "null"
  else if text.isEmpty then standardTag "str"
  else if isBoolWord text then standardTag "bool"
  else if isFloatText text then standardTag "float"
  else if isIntText text then standardTag "int"
  else if text = "<<".toList then standardTag "merge"
  else if isNullWord text then standardTag "null"
  else if isTimeText text then standardTag "timestamp"
  else if text = "=".toList then standardTag "value"
  else if text = "!".toList ∨ text = "&".toList ∨ text = "*".toList then standardTag "yaml"
  else standardTag "str"

end AcmeClient.Yaml
