import AcmeClient.Base64
import AcmeClient.Datum
import AcmeClient.Number.Numeral
import AcmeClient.Text.LetterCase
import AcmeClient.Yaml.Node
import AcmeClient.Yaml.Token.Lexer

/-!
The values that YAML nodes stand for. A fault in the text as a whole comes before a fault in a value;
among the latter the one nearest to the root is reported, and of several equally near the first.
-/

namespace AcmeClient.Yaml

/-- What stops a text from being loaded. Only the first kind is a fault of YAML itself. How deep a text may
nest is up to the stack of its loader. -/
inductive Fault where
  | malformed (reason : String)
  | tooDeep (reason : String)
  | codeTooLarge (code : Nat)
  | badInteger (text : String) (base : Nat)
  | longInteger (digitCount : Nat)
  | badFloat (text : String)
  | hugeNumber
  | emptyNumber
  | unknownWord (text : String)
  | badTime
  | badDate (fault : DateFault)
deriving DecidableEq, Repr

namespace Fault

def message : Fault → String
  | .malformed reason | .tooDeep reason => reason
  | .codeTooLarge code =>
    if code < Nat.pow 2 31 then "chr() arg not in range(0x110000)"
    else "Python int too large to convert to C int"
  | .badInteger text base =>
    s!"invalid literal for int() with base {base}: {String.ofList ((Text.quoted text.toList).take 200)}"
  | .longInteger digitCount =>
    s!"Exceeds the limit (4300 digits) for integer string conversion: value has {digitCount} digits; use sys.set_int_max_str_digits() to increase the limit"
  | .badFloat text => s!"could not convert string to float: {Text.quotedString text}"
  | .hugeNumber => "int too large to convert to float"
  | .emptyNumber => "string index out of range"
  | .unknownWord text => Text.quotedString text
  | .badTime => "'NoneType' object has no attribute 'groupdict'"
  | .badDate fault => fault.message

end Fault

/-- An integer in a base; in base ten it has at most 4300 digits. -/
def readInteger (base : Nat) (text : List Char) : Except Fault Int :=
  match Numeral.integerDigits? base text with
  | none => .error (.badInteger (String.ofList text) base)
  | some (negative, values) =>
    if base = 10 ∧ 4300 < values.length then .error (.longInteger values.length)
    else
      let size : Int := Numeral.ofValues base values
      .ok (if negative then -size else size)

/-- An integer whose first characters show its base, or in parts of sixty. -/
def intOfText (written : String) : Except Fault Int := do
  let text := written.toList.filter (· != '_')
  if text.isEmpty then throw .emptyNumber
  let sign : Int := if text.head? = some '-' then -1 else 1
  let text := dropSign text
  if text = ['0'] then return 0
  else if "0b".toList.isPrefixOf text then return sign * (← readInteger 2 (text.drop 2))
  else if "0x".toList.isPrefixOf text then return sign * (← readInteger 16 (text.drop 2))
  else if text.isEmpty then throw .emptyNumber
  else if text.head? = some '0' then return sign * (← readInteger 8 text)
  else if text.contains ':' then
    let parts ← (splitOn ':' text).mapM (readInteger 10)
    return sign * parts.foldl (fun value part => 60 * value + part) 0
  else return sign * (← readInteger 10 text)

def readFloat (text : List Char) : Except Fault Binary64 :=
  match Numeral.float? text with
  | some x => .ok x
  | none => .error (.badFloat (String.ofList text))

/-- The sum of parts of sixty, the last one first, each times its power, which must have a double. -/
def sumSexagesimal (value : Binary64) (base : Nat) : List Binary64 → Except Fault Binary64
  | [] => .ok value
  | part :: parts =>
    match Binary64.ofInt? base with
    | some weight => sumSexagesimal (value.add (part.mul weight)) (60 * base) parts
    | none => .error .hugeNumber

/-- A decimal number, infinity, what is no number, or a number in parts of sixty. -/
def floatOfText (written : String) : Except Fault Binary64 := do
  let text := Text.lower (written.toList.filter (· != '_'))
  if text.isEmpty then throw .emptyNumber
  let negative := text.head? = some '-'
  let text := dropSign text
  let signed (x : Binary64) : Binary64 := if negative then x.neg else x
  if text = ".inf".toList then return signed (.infinite false)
  else if text = ".nan".toList then return .nan
  else if text.contains ':' then
    let parts ← (splitOn ':' text).mapM readFloat
    return signed (← sumSexagesimal (.zero false) 1 parts.reverse)
  else return signed (← readFloat text)

def boolOfText (written : String) : Except Fault Bool :=
  let text := Text.lowerString written
  if ["yes", "true", "on"].contains text then .ok true
  else if ["no", "false", "off"].contains text then .ok false
  else .error (.unknownWord text)

def microseconds (fraction : List Char) : Nat :=
  let kept := fraction.take 6
  ofDigits (kept ++ List.replicate (6 - kept.length) '0')

def dateOfText (written : String) : Except Fault Datum := do
  let text := written.toList
  let text := if text.getLast? = some '\n' then text.dropLast else text
  let lift {α : Type} (result : Except DateFault α) : Except Fault α := result.mapError .badDate
  match TimeText.read? text with
  | none => throw .badTime
  | some t =>
    let date := Calendar.date? (ofDigits t.year) (ofDigits t.month) (ofDigits t.day)
    match t.clock with
    | none => return .date (← lift date)
    | some (hour, minute, second) =>
      let offset ← match t.zone with
        | none => pure none
        | some none => pure (some 0)
        | some (some (negative, hours, minutes)) => do
          let size : Int := 3600 * ofDigits hours + 60 * ofDigits minutes
          let offset ← lift (Calendar.offset? (if negative then -size else size))
          pure (some offset)
      let date ← lift date
      let time ← lift (Calendar.timeOfDay? (ofDigits hour) (ofDigits minute) (ofDigits second)
        (microseconds t.fraction))
      return .moment ⟨date, time, offset⟩

/-- Bytes in Base64, in which foreign characters are skipped. -/
def bytesOfText (written : String) : Except Fault Datum :=
  let text := written.toList
  if text.any fun c => 0x80 ≤ c.toNat then .error (.malformed "expected ASCII")
  else
    match Base64.decodeWith Base64.standardValue? text with
    | .ok bytes => .ok (.bytes bytes)
    | .error e => .error (.malformed e.message)

def scalarValue? (tag : String) : Option (String → Except Fault Datum) :=
  if tag = standardTag "str" then some fun text => .ok (.text text)
  else if tag = standardTag "null" then some fun _ => .ok .null
  else if tag = standardTag "bool" then some fun text => (boolOfText text).map .bool
  else if tag = standardTag "int" then some fun text => (intOfText text).map .int
  else if tag = standardTag "float" then some fun text => (floatOfText text).map .float
  else if tag = standardTag "binary" then some bytesOfText
  else if tag = standardTag "timestamp" then some dateOfText
  else none

def isKey : Datum → Bool
  | .list _ | .set _ | .map _ | .again _ => false
  | _ => true

/-- A number among the values, which may be an integer, a truth value or a double. -/
def integer? : Datum → Option Int
  | .int i => some i
  | .bool b => some (if b then 1 else 0)
  | .float x => x.toInt?
  | _ => none

/-- Whether two keys are one: numbers of equal value are, and moments at the same instant. -/
def isSameKey (a b : Datum) : Bool :=
  match a, b with
  | .null, .null => true
  | .text s, .text t => s == t
  | .bytes s, .bytes t => s == t
  | .date d, .date e => d == e
  | .moment m, .moment n =>
    m.offset.isSome == n.offset.isSome && Calendar.microsecondsOf m == Calendar.microsecondsOf n
  | .float x, .float y => x.same y || (x == .nan && y == .nan)
  | _, _ =>
    match integer? a, integer? b with
    | some i, some j => i == j
    | _, _ => false

/-- Gives a key a value: at the place where the key stands, or else at the end. -/
def insertEntry (key value : Datum) : List (Datum × Datum) → List (Datum × Datum)
  | [] => [(key, value)]
  | (other, old) :: rest =>
    if isSameKey other key then (other, value) :: rest
    else (other, old) :: insertEntry key value rest

def Node.tag : Node → String
  | .scalar tag _ | .sequence tag _ | .mapping tag _ => tag
  | .again _ => ""

def isMergeKey (node : Node) : Bool := node.tag == standardTag "merge"
def isValueKey (node : Node) : Bool := node.tag == standardTag "value"

/-- The text of a scalar, or of the default value of a mapping. -/
def scalarText? : Node → Option String
  | .scalar _ text => some text
  | .mapping _ entries => default? entries
  | _ => none
where
  default? : List (Node × Node) → Option String
    | [] => none
    | (key, value) :: rest => if isValueKey key then scalarText? value else default? rest

def isCollectionTag (tag : String) : Bool :=
  ["seq", "map", "set", "omap", "pairs"].any fun name => tag == standardTag name

/-- A value and the faults found on the way to it, each with its depth. -/
structure Built where
  value : Datum
  faults : List (Nat × Fault)

structure Entry where
  key : Datum
  value : Datum
  faults : List (Nat × Fault)

/-- The entries of a mapping, with those that it takes over from others apart. -/
structure Entries where
  faults : List Fault
  merged : List Entry
  own : List Entry

def Entries.all (entries : Entries) : List Entry := entries.merged ++ entries.own

def Built.fail (depth : Nat) (reason : String) : Built := ⟨.null, [(depth, .malformed reason)]⟩

def Entries.build (depth : Nat) (entries : Entries) : List (Datum × Datum) × List (Nat × Fault) :=
  (entries.all.foldl (fun kept entry => insertEntry entry.key entry.value kept) [],
    entries.faults.map ((depth, ·)) ++ entries.all.flatMap Entry.faults)

/-- Later sources are taken over first, so that the earlier ones win. -/
def mergeSources (sources : List Entries) : Entries :=
  ⟨sources.flatMap Entries.faults, sources.reverse.flatMap Entries.all, []⟩

def Entries.cons (entry : Entry) (entries : Entries) : Entries :=
  { entries with own := entry :: entries.own }

def Entries.merge (source entries : Entries) : Entries :=
  { entries with
    faults := source.faults ++ entries.faults, merged := source.all ++ entries.merged }

def buildText (depth : Nat) (node : Node) : Built :=
  match scalarText? node with
  | some text => ⟨.text text, []⟩
  | none => .fail depth "expected a scalar"

mutual

/-- The value of a node at a depth. What a collection holds lies one level deeper than it. -/
def build (depth : Nat) : Node → Built
  | .again isList => ⟨.again isList, []⟩
  | .scalar tag text =>
    match scalarValue? tag with
    | some read =>
      match read text with
      | .ok value => ⟨value, []⟩
      | .error fault => ⟨.null, [(depth, fault)]⟩
    | none => .fail (if isCollectionTag tag then depth + 1 else depth) "unexpected scalar"
  | .sequence tag items =>
    if tag = standardTag "seq" then
      let built := buildItems (depth + 1) items
      ⟨.list (built.map Built.value), built.flatMap Built.faults⟩
    else if tag = standardTag "omap" ∨ tag = standardTag "pairs" then
      let built := buildPairs (depth + 1) items
      ⟨.list (built.map Built.value), built.flatMap Built.faults⟩
    else .fail (if isCollectionTag tag then depth + 1 else depth) "unexpected sequence"
  | .mapping tag entries =>
    if tag = standardTag "map" then
      let (values, faults) := (buildEntries (depth + 1) entries).build (depth + 1)
      ⟨.map values, faults⟩
    else if tag = standardTag "set" then
      let (values, faults) := (buildEntries (depth + 1) entries).build (depth + 1)
      ⟨.set (values.map Prod.fst), faults⟩
    else
      match scalarValue? tag, scalarText? (.mapping tag entries) with
      | some read, some text =>
        match read text with
        | .ok value => ⟨value, []⟩
        | .error fault => ⟨.null, [(depth, fault)]⟩
      | _, _ => .fail (if isCollectionTag tag then depth + 1 else depth) "unexpected mapping"

def buildItems (depth : Nat) : List Node → List Built
  | [] => []
  | item :: rest => build depth item :: buildItems depth rest

/-- Mappings of one entry each, as pairs. -/
def buildPairs (depth : Nat) : List Node → List Built
  | [] => []
  | item :: rest => buildPair depth item :: buildPairs depth rest

def buildPair (depth : Nat) : Node → Built
  | .mapping _ [(key, value)] =>
    let key := build depth key
    let value := build depth value
    ⟨.tuple [key.value, value.value], key.faults ++ value.faults⟩
  | _ => .fail depth "expected a mapping of one entry"

/-- The entries of a mapping; a merge key takes over those of a mapping or of several. -/
def buildEntries (depth : Nat) : List (Node × Node) → Entries
  | [] => ⟨[], [], []⟩
  | (key, value) :: rest =>
    let others := buildEntries depth rest
    if isMergeKey key then (buildSource depth value).merge others
    else
      let key := if isValueKey key then buildText depth key else build depth key
      let value := build depth value
      let unfit := if isKey key.value then [] else [(depth, Fault.malformed "unfit key")]
      others.cons ⟨key.value, value.value, key.faults ++ unfit ++ value.faults⟩

def buildSource (depth : Nat) : Node → Entries
  | .mapping _ entries => buildEntries depth entries
  | .sequence _ items => mergeSources (buildSources depth items)
  | .scalar _ _ => ⟨[.malformed "expected a mapping for merging"], [], []⟩
  | .again _ => ⟨[], [], []⟩

def buildSources (depth : Nat) : List Node → List Entries
  | [] => []
  | item :: rest =>
    (match item with
      | .mapping _ entries => buildEntries depth entries
      | .again false => ⟨[], [], []⟩
      | _ => ⟨[.malformed "expected a mapping for merging"], [], []⟩) ::
      buildSources depth rest

end

/-- The fault at the least depth, and of those the first. -/
def firstFault? (faults : List (Nat × Fault)) : Option Fault :=
  let least := faults.foldl (fun least fault => min least fault.1) (faults.headD (0, .badTime)).1
  (faults.find? fun fault => fault.1 == least).map Prod.snd

def Node.value (node : Node) : Except Fault Datum :=
  let built := build 0 node
  match firstFault? built.faults with
  | none => .ok built.value
  | some fault => .error fault

def LexFault.fault : LexFault → Fault
  | .malformed reason => .malformed reason
  | .codeTooLarge code => .codeTooLarge code
  | .longInteger digitCount => .longInteger digitCount

/-- What makes a value of a text. -/
abbrev Loader := List Char → Except Fault Datum

/-- The value of the one document in a text; a text without any has none. -/
def load (text : List Char) : Except Fault Datum :=
  let (tokens, stop) := tokens text
  match Node.ofTokens tokens, stop with
  | .ok none, none => .ok .null
  | .ok (some node), none => node.value
  | .ok _, some fault | .error 0, some fault => .error fault.fault
  | .error _, _ => .error (.malformed "unexpected token")

end AcmeClient.Yaml
