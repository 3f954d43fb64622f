import AcmeClient.Datum

namespace AcmeClient.Redaction

def mark : String := "[REDACTED]"

def dashes : List Char := "-----".toList

def isLabelChar (c : Char) : Bool := c.isUpper || c.isDigit || c == ' '

/-- The marker of a kind at the start of a text: dashes, the word, a label, and dashes. -/
def marker? (word : String) (text : List Char) : Option (List Char) :=
  let opening := dashes ++ word.toList ++ [' ']
  if opening.isPrefixOf text then
    let rest := text.drop opening.length
    let label := rest.takeWhile isLabelChar
    if !label.isEmpty && dashes.isPrefixOf (rest.drop label.length) then
      some (opening ++ label ++ dashes)
    else none
  else none

/-- How many characters stand before the first closing marker, and that marker. -/
def findClosing? : List Char → Option (Nat × List Char)
  | [] => none
  | c :: rest =>
    match marker? "END" (c :: rest) with
    | some closing => some (0, closing)
    | none => (findClosing? rest).map fun found => (found.1 + 1, found.2)

structure Block where
  opening : List Char
  bodyLength : Nat
  closing : List Char
deriving DecidableEq, Repr

def Block.length (b : Block) : Nat := b.opening.length + b.bodyLength + b.closing.length

/-- The block at the start of a text: an opening marker, and the first closing marker after it. -/
def block? (text : List Char) : Option Block := do
  let opening ← marker? "BEGIN" text
  let (bodyLength, closing) ← findClosing? (text.drop opening.length)
  return ⟨opening, bodyLength, closing⟩

/-- Both markers stay, and the mark takes the place of what stood between them. -/
def Block.redacted (b : Block) : List Char :=
  b.opening ++ '\n' :: mark.toList ++ '\n' :: b.closing

/-- A text of which the first `skip` characters have been dealt with. -/
def redactFrom (skip : Nat) : List Char → List Char
  | [] => []
  | c :: rest =>
    if 0 < skip then redactFrom (skip - 1) rest
    else
      match block? (c :: rest) with
      | some block => block.redacted ++ redactFrom (block.length - 1) rest
      | none => c :: redactFrom 0 rest

/-- A text with its blocks redacted, from left to right. -/
def redactBlocks (text : List Char) : List Char := redactFrom 0 text

/-- The members of a key that only its owner may know, and those that tell which key it is. -/
def secretNames : List String := ["n", "e", "x", "y", "d", "p", "q", "dp", "dq", "qi", "k"]

def isSecretName : Datum → Bool
  | .text name => secretNames.contains name
  | _ => false

def redactKey (entries : List (Datum × Datum)) : List (Datum × Datum) :=
  entries.map fun entry => (entry.1, if isSecretName entry.1 then .text mark else entry.2)

def hint : List Char := "-----BEGIN ".toList

def mayHoldBlock : List Char → Bool
  | [] => false
  | c :: rest => hint.isPrefixOf (c :: rest) || mayHoldBlock rest

def redactText (s : String) : String :=
  if mayHoldBlock s.toList then String.ofList (redactBlocks s.toList) else s

/-- A value without key material. A mapping that names a type of key is a key. -/
def redact : Datum → Datum
  | .text s => .text (redactText s)
  | .list items => .list (redactItems items)
  | .tuple items => .tuple (redactItems items)
  | .map entries =>
    if (Datum.find? "kty" entries).isSome then .map (redactKey entries)
    else .map (redactEntries entries)
  | other => other
where
  redactItems : List Datum → List Datum
    | [] => []
    | item :: rest => redact item :: redactItems rest
  redactEntries : List (Datum × Datum) → List (Datum × Datum)
    | [] => []
    | (key, value) :: rest => (key, redact value) :: redactEntries rest

end AcmeClient.Redaction
