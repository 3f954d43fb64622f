import AcmeClient.Datum
import AcmeClient.Json.Reader
import AcmeClient.Text.Quoted

/-!
Message templates. A percent sign starts a conversion: an optional key in parentheses, flags, a width,
a precision, and a letter that says how the next argument is shown. Two percent signs stand for one.
-/

namespace AcmeClient.Logging

inductive TemplateFault where
  | needsMapping
  | openKey
  | missingKey (key : String)
  | starNotInteger
  | widthTooBig
  | precisionTooBig
  | starTooBig (isWidth : Bool)
  | incomplete
  | tooFewArguments
  | unusedArguments
  | unknownConversion (letter : Char) (position : Nat)
  | notReal (letter : Char) (kind : String)
  | notInteger (letter : Char) (kind : String)
  | notFloat (kind : String)
  | notCharacter
  | noCharacter
  | integerOfNan
  | integerOfInfinity
  | hugeInteger
  | longInteger
deriving DecidableEq, Repr

namespace TemplateFault

def message : TemplateFault → String
  | .needsMapping => "format requires a mapping"
  | .openKey => "incomplete format key"
  | .missingKey key => Text.quotedString key
  | .starNotInteger => "* wants int"
  | .widthTooBig => "width too big"
  | .precisionTooBig => "precision too big"
  | .starTooBig isWidth =>
    if isWidth then "Python int too large to convert to C ssize_t"
    else "Python int too large to convert to C int"
  | .incomplete => "incomplete format"
  | .tooFewArguments => "not enough arguments for format string"
  | .unusedArguments => "not all arguments converted during string formatting"
  | .unknownConversion letter position =>
    let shown := if 31 ≤ letter.toNat ∧ letter.toNat ≤ 126 then letter else '?'
    s!"unsupported format character '{shown}' (0x{String.ofList (Nat.toDigits 16 letter.toNat)}) at index {position}"
  | .notReal letter kind => s!"%{letter} format: a real number is required, not {kind}"
  | .notInteger letter kind => s!"%{letter} format: an integer is required, not {kind}"
  | .notFloat kind => s!"must be real number, not {kind}"
  | .notCharacter => "%c requires int or char"
  | .noCharacter => "%c arg not in range(0x110000)"
  | .integerOfNan => "cannot convert float NaN to integer"
  | .integerOfInfinity => "cannot convert float infinity to integer"
  | .hugeInteger => "int too large to convert to float"
  | .longInteger => Json.longIntegerMessage

end TemplateFault

/-- The arguments of a template: those still to be taken in order, and the mapping that keys refer
to, if there is one. -/
structure Arguments where
  mapping : Option (List (String × Json))
  pending : List Json

namespace Arguments

/-- A single mapping that is not empty is used by its keys; all other arguments in order. -/
def ofList : List Json → Arguments
  | [.obj (member :: members)] => ⟨some (member :: members), [.obj (member :: members)]⟩
  | values => ⟨none, values⟩

def next (arguments : Arguments) : Except TemplateFault (Json × Arguments) :=
  match arguments.pending with
  | [] => .error .tooFewArguments
  | value :: rest => .ok (value, { arguments with pending := rest })

def select (arguments : Arguments) (key : String) : Except TemplateFault Arguments :=
  match arguments.mapping with
  | none => .error .needsMapping
  | some members =>
    match Assoc.find? key members with
    | none => .error (.missingKey key)
    | some value => .ok { arguments with pending := [value] }

end Arguments

structure Directive where
  leftAligned : Bool
  plus : Bool
  blank : Bool
  alternate : Bool
  zeroFilled : Bool
  width : Option Nat
  precision : Option Nat
  letter : Char

/-- A key up to the parenthesis that closes it, and what follows. -/
def readKey? (depth : Nat) : List Char → Option (List Char × List Char)
  | [] => none
  | c :: rest =>
    if c = ')' ∧ depth = 0 then some ([], rest)
    else
      let depth := if c = ')' then depth - 1 else if c = '(' then depth + 1 else depth
      (readKey? depth rest).map fun (key, rest) => (c :: key, rest)

def maxWidth : Nat := Nat.pow 2 63 - 1
def maxPrecision : Nat := Nat.pow 2 31 - 1

def starValue : Json → Except TemplateFault Int
  | .int i => .ok i
  | .bool b => .ok (if b then 1 else 0)
  | _ => .error .starNotInteger

/-- A width of digits or a star; a negative argument also aligns to the left. -/
def readWidth (arguments : Arguments) (text : List Char) :
    Except TemplateFault (Option Nat × Bool × Arguments × List Char) :=
  match text with
  | '*' :: rest => do
    let (value, arguments) ← arguments.next
    let width ← starValue value
    if maxWidth < width.natAbs then throw (.starTooBig true)
    return (some width.natAbs, width < 0, arguments, rest)
  | _ =>
    let number := text.takeWhile Char.isDigit
    if number.isEmpty then .ok (none, false, arguments, text)
    else if maxWidth < ofDigits number then .error .widthTooBig
    else .ok (some (ofDigits number), false, arguments, text.drop number.length)

/-- A precision after a point; without digits it is zero. -/
def readPrecision (arguments : Arguments) (text : List Char) :
    Except TemplateFault (Option Nat × Arguments × List Char) :=
  match text with
  | '.' :: '*' :: rest => do
    let (value, arguments) ← arguments.next
    let precision ← starValue value
    if maxPrecision < precision.natAbs then throw (.starTooBig false)
    return (some precision.toNat, arguments, rest)
  | '.' :: rest =>
    let number := rest.takeWhile Char.isDigit
    if maxPrecision < ofDigits number then .error .precisionTooBig
    else .ok (some (ofDigits number), arguments, rest.drop number.length)
  | _ => .ok (none, arguments, text)

def isFlag (c : Char) : Bool := c == '-' || c == '+' || c == ' ' || c == '#' || c == '0'

def skipSize : List Char → List Char
  | c :: rest => if c = 'h' ∨ c = 'l' ∨ c = 'L' then rest else c :: rest
  | [] => []

def readDirective (arguments : Arguments) (text : List Char) :
    Except TemplateFault (Directive × Arguments × List Char) := do
  let (arguments, text) ← match text with
    | '(' :: rest =>
      if arguments.mapping.isNone then throw .needsMapping
      match readKey? 0 rest with
      | none => throw .openKey
      | some (key, rest) => pure (← arguments.select (String.ofList key), rest)
    | _ => pure (arguments, text)
  let flags := text.takeWhile isFlag
  let (width, reversed, arguments, text) ← readWidth arguments (text.drop flags.length)
  let (precision, arguments, text) ← readPrecision arguments text
  match skipSize text with
  | [] => throw .incomplete
  | letter :: rest =>
    let directive : Directive :=
      { leftAligned := flags.contains '-' || reversed
        plus := flags.contains '+'
        blank := flags.contains ' '
        alternate := flags.contains '#'
        zeroFilled := flags.contains '0'
        width, precision, letter }
    return (directive, arguments, rest)

/-- A converted argument: a sign, a mark of the number base, and the rest. -/
structure Piece where
  sign : List Char
  mark : List Char
  body : List Char

/-- Brings a piece to the width of its directive: blanks in front or behind, or zeros between mark
and digits of a number. -/
def Directive.align (d : Directive) (isNumber : Bool) (piece : Piece) : List Char :=
  let size := piece.sign.length + piece.mark.length + piece.body.length
  let missing := d.width.getD 0 - size
  let whole := piece.sign ++ piece.mark ++ piece.body
  if d.leftAligned then whole ++ List.replicate missing ' '
  else if isNumber && d.zeroFilled then
    piece.sign ++ piece.mark ++ List.replicate missing '0' ++ piece.body
  else List.replicate missing ' ' ++ whole

def Directive.signOf (d : Directive) (negative : Bool) : List Char :=
  if negative then ['-'] else if d.plus then ['+'] else if d.blank then [' '] else []

def asciiOnly (text : List Char) : List Char :=
  text.flatMap fun c =>
    if c.toNat < 0x80 then [c]
    else if c.toNat < 0x100 then '\\' :: 'x' :: Text.hexDigits 2 c.toNat
    else if c.toNat < 0x10000 then '\\' :: 'u' :: Text.hexDigits 4 c.toNat
    else '\\' :: 'U' :: Text.hexDigits 8 c.toNat

/-- Any value as text, cut to the precision. -/
def Directive.showText (d : Directive) (value : Json) : List Char :=
  let text :=
    if d.letter = 's' then value.asText.toList
    else if d.letter = 'r' then value.display.toList
    else asciiOnly value.display.toList
  d.align false ⟨[], [], text.take (d.precision.getD text.length)⟩

/-- A number as an integer; only letters for decimal digits take fractions, and drop them. -/
def integerArgument (letter : Char) (value : Json) : Except TemplateFault Int :=
  let isDecimal := letter == 'd' || letter == 'i' || letter == 'u'
  match value with
  | .int i => .ok i
  | .bool b => .ok (if b then 1 else 0)
  | .float x =>
    if !isDecimal then .error (.notInteger letter "float")
    else
      match x with
      | .nan => .error .integerOfNan
      | .infinite _ => .error .integerOfInfinity
      | .finite .. => .ok (x.truncate?.getD 0)
  | other => .error ((if isDecimal then TemplateFault.notReal else .notInteger) letter other.kind)

/-- An integer in base ten, eight or sixteen, with at least as many digits as the precision. -/
def Directive.showInteger (d : Directive) (i : Int) : List Char :=
  let base := if d.letter = 'o' then 8 else if d.letter = 'x' ∨ d.letter = 'X' then 16 else 10
  let small := Nat.toDigits base i.natAbs
  let number := if d.letter = 'X' then small.map Char.toUpper else small
  let padded := List.replicate (d.precision.getD 0 - number.length) '0' ++ number
  let mark := if d.alternate ∧ base ≠ 10 then ['0', d.letter] else []
  d.align true ⟨d.signOf (i < 0), mark, padded⟩

def floatArgument (value : Json) : Except TemplateFault Binary64 :=
  match value with
  | .float x => .ok x
  | .int i =>
    match Binary64.ofInt? i with
    | some x => .ok x
    | none => .error .hugeInteger
  | .bool b => .ok (.ofRatio false (if b then 1 else 0) 1)
  | other => .error (.notFloat other.kind)

/-- Digits before and after a point, which is left out with nothing after it unless asked for. -/
def withPoint (alternate : Bool) (whole fraction : List Char) : List Char :=
  if fraction.isEmpty && !alternate then whole else whole ++ '.' :: fraction

def withExponent (alternate : Bool) (x : Scientific) : List Char :=
  withPoint alternate (x.significant.take 1) (x.significant.drop 1)
    ++ 'e' :: Scientific.exponentText x.exponent

/-- The digits of a magnitude: with fixed places, with an exponent, or whichever is shorter, then
without zeros at the end. -/
def Directive.floatBody (d : Directive) (magnitude : Fin magnitudeCount) : List Char :=
  let units := Binary64.units magnitude
  let precision := d.precision.getD 6
  match d.letter.toLower with
  | 'f' =>
    let (whole, fraction) := Binary64.fixedDigits units precision
    withPoint d.alternate whole fraction
  | 'e' => withExponent d.alternate (Binary64.significantDigits units (precision + 1))
  | _ =>
    let count := max precision 1
    let full := Binary64.significantDigits units count
    let x := if d.alternate then full else full.trim
    if full.exponent < -4 ∨ (count : Int) ≤ full.exponent then withExponent d.alternate x
    else
      let (whole, fraction) := x.positional
      withPoint d.alternate whole fraction

def Directive.showFloat (d : Directive) (x : Binary64) : List Char :=
  let (negative, body) := match x with
    | .nan => (false, "nan".toList)
    | .infinite negative => (negative, "inf".toList)
    | .finite negative magnitude => (negative, d.floatBody magnitude)
  let body := if d.letter.isUpper then body.map Char.toUpper else body
  d.align true ⟨d.signOf negative, [], body⟩

/-- One character, by itself or by its number. -/
def characterArgument (value : Json) : Except TemplateFault Char :=
  let ofNumber (i : Int) : Except TemplateFault Char :=
    if i < 0 ∨ 0x110000 ≤ i then .error .noCharacter
    else if 0xD800 ≤ i ∧ i < 0xE000 then .ok (Char.ofNat 0xFFFD)
    else .ok (Char.ofNat i.toNat)
  match value with
  | .str s =>
    match s.toList with
    | [c] => .ok c
    | _ => .error .notCharacter
  | .int i => ofNumber i
  | .bool b => ofNumber (if b then 1 else 0)
  | _ => .error .notCharacter

/-- A value that is shown in decimal digits. -/
def expectShort (value : Json) : Except TemplateFault Unit :=
  if value.hasLongInteger then .error .longInteger else .ok ()

/-- The text of a conversion whose letter stands at `position`. -/
def Directive.render (d : Directive) (arguments : Arguments) (position : Nat) :
    Except TemplateFault (List Char × Arguments) := do
  let (value, arguments) ← arguments.next
  let text ←
    if "sra".toList.contains d.letter then do
      expectShort value
      pure (d.showText value)
    else if "diuoxX".toList.contains d.letter then do
      let i ← integerArgument d.letter value
      if "diu".toList.contains d.letter then expectShort (.int i)
      pure (d.showInteger i)
    else if "eEfFgG".toList.contains d.letter then pure (d.showFloat (← floatArgument value))
    else if d.letter = 'c' then pure (d.align false ⟨[], [], [← characterArgument value]⟩)
    else throw (.unknownConversion d.letter position)
  return (text, arguments)

/-- Fills in the conversions of the rest of a template of `length` characters, given at least as
many steps as the rest has characters. -/
def fillFrom (length : Nat) : (steps : Nat) → Arguments → List Char →
    Except TemplateFault (List Char)
  | _, arguments, [] =>
    if arguments.mapping.isNone && !arguments.pending.isEmpty then .error .unusedArguments
    else .ok []
  | 0, _, _ :: _ => .error .incomplete
  | steps + 1, arguments, c :: rest => do
    if c ≠ '%' then return c :: (← fillFrom length steps arguments rest)
    match rest with
    | '%' :: rest => return '%' :: (← fillFrom length steps arguments rest)
    | _ =>
      let (directive, arguments, rest) ← readDirective arguments rest
      let (text, arguments) ← directive.render arguments (length - rest.length - 1)
      return text ++ (← fillFrom length steps arguments rest)

/-- A template with its arguments filled in; without arguments it stands as it is. -/
def fill (template : String) (arguments : List Json) : Except TemplateFault String :=
  if arguments.isEmpty then .ok template
  else do
    let text := template.toList
    return String.ofList (← fillFrom text.length text.length (.ofList arguments) text)

end AcmeClient.Logging
