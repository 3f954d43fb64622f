import AcmeClient.Bytes
import AcmeClient.Number.Decimal
import AcmeClient.Text.Utf8
import AcmeClient.Yaml.Token

/-!
Dividing a YAML text into tokens. A simple key is known to be one only at the colon after it, so the
place of every token that may start one is kept until the colon or the end of its line.
-/

namespace AcmeClient.Yaml

/-- Stands for the end of the text, in which it cannot occur. -/
def endMark : Char := '\x00'

def byteOrderMark : Char := Char.ofNat 0xFEFF
def lineSeparator : Char := Char.ofNat 0x2028
def paragraphSeparator : Char := Char.ofNat 0x2029
def nextLine : Char := Char.ofNat 0x85

def isBreak (c : Char) : Bool :=
  c == '\n' || c == '\r' || c == nextLine || c == lineSeparator || c == paragraphSeparator

def isBreakOrEnd (c : Char) : Bool := isBreak c || c == endMark

/-- A blank that is no tab, a line break, or the end. -/
def isGap (c : Char) : Bool := c == ' ' || isBreakOrEnd c

def isTabOrGap (c : Char) : Bool := c == '\t' || isGap c

def isNameChar (c : Char) : Bool := c.isAlphanum || c == '-' || c == '_'

def isUriChar (c : Char) : Bool := isNameChar c || ";/?:@&=+$,.!~*'()[]".toList.contains c

def isAllowed (c : Char) : Bool :=
  let n := c.toNat
  n == 0x09 || n == 0x0A || n == 0x0D || (0x20 ≤ n && n ≤ 0x7E) || n == 0x85 ||
    (0xA0 ≤ n && n ≤ 0xD7FF) || (0xE000 ≤ n && n ≤ 0xFFFD) || 0x10000 ≤ n

structure Cursor where
  rest : List Char
  index : Nat
  line : Nat
  column : Nat

namespace Cursor

def peekAt (c : Cursor) (offset : Nat) : Char := c.rest.getD offset endMark

def peek (c : Cursor) : Char := c.peekAt 0

/-- One character further on; a break starts a new line. -/
def step (c : Cursor) : Cursor :=
  match c.rest with
  | [] => c
  | first :: rest =>
    if isBreak first && !(first == '\r' && rest.head? == some '\n') then
      ⟨rest, c.index + 1, c.line + 1, 0⟩
    else ⟨rest, c.index + 1, c.line, if first = byteOrderMark then c.column else c.column + 1⟩

def advance : (count : Nat) → Cursor → Cursor
  | 0, c => c
  | count + 1, c => advance count c.step

/-- The characters of a class at this place, and the place after them. -/
def span (c : Cursor) (accepted : Char → Bool) : List Char × Cursor :=
  let taken := c.rest.takeWhile accepted
  (taken, c.advance taken.length)

def skip (c : Cursor) (accepted : Char → Bool) : Cursor := (c.span accepted).2

/-- The line break at this place as it counts in text, and the place after it. -/
def lineBreak (c : Cursor) : List Char × Cursor :=
  let first := c.peek
  if first = lineSeparator ∨ first = paragraphSeparator then ([first], c.step)
  else if isBreak first then
    (['\n'], if first = '\r' ∧ c.peekAt 1 = '\n' then c.advance 2 else c.step)
  else ([], c)

def startsWith (c : Cursor) (mark : List Char) : Bool := mark.isPrefixOf c.rest

def atSeparator (c : Cursor) : Bool :=
  (c.startsWith ['-', '-', '-'] || c.startsWith ['.', '.', '.']) && isTabOrGap (c.peekAt 3)

end Cursor

/-- A token that may start a simple key: its number among the tokens, whether it must start one, and
its place. -/
structure PossibleKey where
  number : Nat
  required : Bool
  index : Nat
  line : Nat
  column : Nat

/-- What has been read so far. Of the levels of flow collections the innermost comes first among the
keys; the last is the block level. -/
structure Lexer where
  cursor : Cursor
  flowLevel : Nat
  indent : Int
  outerIndents : List Int
  keyAllowed : Bool
  keys : List (Option PossibleKey)
  tokens : Array Token

abbrev Lex := StateT Lexer (Except LexFault)

def malformed (reason : String) : Lex α := throw (.malformed reason)

def emit (token : Token) : Lex Unit :=
  modify fun lexer => { lexer with tokens := lexer.tokens.push token }

def moveTo (cursor : Cursor) : Lex Unit := modify fun lexer => { lexer with cursor }

def allowKey (keyAllowed : Bool) : Lex Unit := modify fun lexer => { lexer with keyAllowed }

/-- A simple key ends on its line and within 1024 characters. -/
def PossibleKey.isStale (cursor : Cursor) (key : PossibleKey) : Bool :=
  key.line != cursor.line || 1024 < cursor.index - key.index

def dropStaleKeys : Lex Unit := do
  let lexer ← get
  let stale (key : Option PossibleKey) : Bool := key.any (PossibleKey.isStale lexer.cursor)
  if lexer.keys.any fun key => stale key && key.any PossibleKey.required then
    malformed "could not find the colon of a key"
  set { lexer with keys := lexer.keys.map fun key => if stale key then none else key }

def dropKey : Lex Unit := do
  let lexer ← get
  match lexer.keys with
  | some key :: outer =>
    if key.required then malformed "could not find the colon of a key"
    set { lexer with keys := none :: outer }
  | _ => pure ()

/-- Keeps the next token as a possible key, if one may start here. -/
def keepKey : Lex Unit := do
  let lexer ← get
  if lexer.keyAllowed then
    dropKey
    let cursor := lexer.cursor
    let key : PossibleKey :=
      { number := lexer.tokens.size
        required := lexer.flowLevel == 0 && lexer.indent == cursor.column
        index := cursor.index, line := cursor.line, column := cursor.column }
    modify fun lexer => { lexer with keys := some key :: lexer.keys.drop 1 }

def closeBlocks (column : Int) : Lex Unit := do
  let lexer ← get
  if lexer.flowLevel = 0 then set (close lexer.outerIndents lexer)
where
  close : List Int → Lexer → Lexer
    | [], lexer => lexer
    | outer :: others, lexer =>
      if column < lexer.indent then
        close others { lexer with
          indent := outer, outerIndents := others, tokens := lexer.tokens.push .blockEnd }
      else lexer

/-- Indents up to a column, if that is further in; the answer says whether it was. -/
def openBlock (column : Nat) : Lex Bool := do
  let lexer ← get
  if lexer.indent < column then
    set { lexer with indent := column, outerIndents := lexer.indent :: lexer.outerIndents }
    return true
  else return false

/-- The next place that is neither blank nor comment, and whether a line ended before it. -/
def nextPlace : (steps : Nat) → Bool → Cursor → Bool × Cursor
  | 0, broke, c => (broke, c)
  | steps + 1, broke, c =>
    let c := c.skip (· == ' ')
    let c := if c.peek = '#' then c.skip (!isBreakOrEnd ·) else c
    if isBreak c.peek then nextPlace steps true c.lineBreak.2 else (broke, c)

/-- In block context a key may start on each new line. -/
def skipToToken : Lex Unit := do
  let lexer ← get
  let c := lexer.cursor
  let c := if c.index = 0 ∧ c.peek = byteOrderMark then c.step else c
  let (broke, c) := nextPlace (c.rest.length + 1) false c
  set { lexer with cursor := c, keyAllowed := lexer.keyAllowed || (broke && lexer.flowLevel == 0) }

def finishLine (c : Cursor) : Except LexFault Cursor :=
  let c := c.skip (· == ' ')
  let c := if c.peek = '#' then c.skip (!isBreakOrEnd ·) else c
  if isBreakOrEnd c.peek then .ok c.lineBreak.2
  else .error (.malformed "expected a comment or a line break")

def scanName (c : Cursor) : Except LexFault (String × Cursor) :=
  let (name, after) := c.span isNameChar
  if name.isEmpty then .error (.malformed "expected a name")
  else .ok (String.ofList name, after)

def scanAnchor (c : Cursor) : Except LexFault (String × Cursor) := do
  let (name, c) ← scanName c.step
  if isTabOrGap c.peek || "?:,]\x7d%@`".toList.contains c.peek then return (name, c)
  else throw (.malformed "expected a name")

/-- A tag handle: a mark alone, or a name between two marks. -/
def scanHandle (c : Cursor) : Except LexFault (String × Cursor) :=
  if c.peek ≠ '!' then .error (.malformed "expected a tag handle")
  else if c.peekAt 1 = ' ' then .ok ("!", c.step)
  else
    let (name, after) := c.step.span isNameChar
    if after.peek = '!' then .ok (String.ofList ('!' :: name ++ ['!']), after.step)
    else .error (.malformed "expected a tag handle")

def scanEscapedBytes : (steps : Nat) → Cursor → Except LexFault (Bytes × Cursor)
  | 0, c => .ok ([], c)
  | steps + 1, c =>
    if c.peek ≠ '%' then .ok ([], c)
    else
      match Bytes.hexValue? (c.peekAt 1), Bytes.hexValue? (c.peekAt 2) with
      | some high, some low => do
        let (bytes, c) ← scanEscapedBytes steps (c.advance 3)
        return (UInt8.ofNat (16 * high + low) :: bytes, c)
      | _, _ => .error (.malformed "expected two hexadecimal digits")

/-- The characters of a tag, in which escapes stand for UTF-8. -/
def scanUriFrom : (steps : Nat) → Cursor → Except LexFault (List Char × Cursor)
  | 0, c => .ok ([], c)
  | steps + 1, c => do
    let (plain, c) := c.span isUriChar
    if c.peek ≠ '%' then return (plain, c)
    let (bytes, c) ← scanEscapedBytes c.rest.length c
    match Text.Utf8.decode bytes with
    | .error _ => throw (.malformed "expected UTF-8")
    | .ok text =>
      let (more, c) ← scanUriFrom steps c
      return (plain ++ text ++ more, c)

def scanUri (c : Cursor) : Except LexFault (String × Cursor) := do
  if !isUriChar c.peek && c.peek ≠ '%' then throw (.malformed "expected a tag")
  let (text, c) ← scanUriFrom (c.rest.length + 1) c
  return (String.ofList text, c)

def hasHandle (c : Cursor) : Bool :=
  (c.step.rest.takeWhile (!isGap ·)).contains '!'

def scanTag (c : Cursor) : Except LexFault (TagText × Cursor) := do
  let next := c.peekAt 1
  let (tag, c) ←
    if next = '<' then do
      let (suffix, c) ← scanUri (c.advance 2)
      if c.peek ≠ '>' then throw (.malformed "expected the end of a tag")
      pure (TagText.mk none suffix, c.step)
    else if isTabOrGap next then pure (TagText.mk none "!", c.step)
    else do
      let (handle, c) ← if hasHandle c then scanHandle c else pure ("!", c.step)
      let (suffix, c) ← scanUri c
      pure (TagText.mk (some handle) suffix, c)
  if isGap c.peek then return (tag, c) else throw (.malformed "expected the end of a tag")

def scanNumber (c : Cursor) : Except LexFault (Nat × Cursor) :=
  let (text, after) := c.span Char.isDigit
  if text.isEmpty then .error (.malformed "expected a digit")
  else if 4300 < text.length then .error (.longInteger text.length)
  else .ok (ofDigits text, after)

def scanDirective (c : Cursor) : Except LexFault (Directive × Cursor) := do
  let (name, c) ← scanName c.step
  if !isGap c.peek then throw (.malformed "expected the end of a name")
  let (directive, c) ←
    if name = "YAML" then do
      let (major, c) ← scanNumber (c.skip (· == ' '))
      if c.peek ≠ '.' then throw (.malformed "expected a point")
      let (minor, c) ← scanNumber c.step
      if !isGap c.peek then throw (.malformed "expected the end of a version")
      pure (Directive.version major minor, c)
    else if name = "TAG" then do
      let (handle, c) ← scanHandle (c.skip (· == ' '))
      if c.peek ≠ ' ' then throw (.malformed "expected a blank")
      let (replacement, c) ← scanUri (c.skip (· == ' '))
      if !isGap c.peek then throw (.malformed "expected the end of a tag")
      pure (Directive.tag handle replacement, c)
    else pure (Directive.other, c.skip (!isBreakOrEnd ·))
  return (directive, ← finishLine c)

inductive Chomping where
  | clip
  | strip
  | keep
deriving DecidableEq

def chomping? (c : Char) : Option Chomping :=
  if c = '+' then some .keep else if c = '-' then some .strip else none

/-- A chomping mark and an indentation of one to nine, in either order. -/
def scanHeader (c : Cursor) : Except LexFault (Chomping × Option Nat × Cursor) := do
  let indentation (c : Cursor) : Except LexFault (Option Nat × Cursor) :=
    if c.peek = '0' then .error (.malformed "expected an indentation of at least one")
    else if c.peek.isDigit then .ok (some (c.peek.toNat - 48), c.step)
    else .ok (none, c)
  let (chomping, increment, c) ←
    match chomping? c.peek with
    | some chomping => do
      let (increment, c) ← indentation c.step
      pure (chomping, increment, c)
    | none => do
      let (increment, c) ← indentation c
      match increment, chomping? c.peek with
      | some _, some chomping => pure (chomping, increment, c.step)
      | _, _ => pure (.clip, increment, c)
  if isGap c.peek then return (chomping, increment, c)
  else throw (.malformed "expected a chomping mark or an indentation")

/-- Line breaks and blanks before the first line with content, and the widest indentation there. -/
def leadingBreaks : (steps : Nat) → (widest : Nat) → Cursor → List Char × Nat × Cursor
  | 0, widest, c => ([], widest, c)
  | steps + 1, widest, c =>
    if c.peek = ' ' then leadingBreaks steps (max widest (c.column + 1)) c.step
    else if isBreak c.peek then
      let (lineBreak, c) := c.lineBreak
      let (breaks, widest, c) := leadingBreaks steps widest c
      (lineBreak ++ breaks, widest, c)
    else ([], widest, c)

def indentTo : (steps : Nat) → (column : Nat) → Cursor → Cursor
  | 0, _, c => c
  | steps + 1, column, c =>
    if c.column < column ∧ c.peek = ' ' then indentTo steps column c.step else c

/-- Empty lines, and the indentation of the line after them. -/
def emptyLines : (steps : Nat) → (column : Nat) → Cursor → List Char × Cursor
  | 0, _, c => ([], c)
  | steps + 1, column, c =>
    let c := indentTo column column c
    if isBreak c.peek then
      let (lineBreak, c) := c.lineBreak
      let (breaks, c) := emptyLines steps column c
      (lineBreak ++ breaks, c)
    else ([], c)

/-- The lines of a block scalar that are indented to a column, the last line break, and the empty
lines after it. Folding joins two lines unless one of them starts with a blank. -/
def blockLines (folded : Bool) (column : Nat) :
    (steps : Nat) → (breaks : List Char) → Cursor → List Char × List Char × List Char × Cursor
  | 0, breaks, c => ([], [], breaks, c)
  | steps + 1, breaks, c =>
    if c.column = column ∧ c.peek ≠ endMark then
      let startsDark := c.peek ≠ ' ' ∧ c.peek ≠ '\t'
      let (line, c) := c.span (!isBreakOrEnd ·)
      let (lineBreak, c) := c.lineBreak
      let (nextBreaks, c) := emptyLines (c.rest.length + 1) column c
      if c.column = column ∧ c.peek ≠ endMark then
        let joint :=
          if folded ∧ lineBreak = ['\n'] ∧ startsDark ∧ c.peek ≠ ' ' ∧ c.peek ≠ '\t' then
            (if nextBreaks.isEmpty then [' '] else [])
          else lineBreak
        let (text, last, trailing, c) := blockLines folded column steps nextBreaks c
        (breaks ++ line ++ joint ++ text, last, trailing, c)
      else (breaks ++ line, lineBreak, nextBreaks, c)
    else ([], [], breaks, c)

def scanBlockScalar (folded : Bool) (indent : Int) (c : Cursor) :
    Except LexFault (String × Cursor) := do
  let (chomping, increment, c) ← scanHeader c.step
  let c ← finishLine c
  let least := max (indent + 1).toNat 1
  let steps := c.rest.length + 1
  let (breaks, column, c) :=
    match increment with
    | none =>
      let (breaks, widest, c) := leadingBreaks steps 0 c
      (breaks, max least widest, c)
    | some increment =>
      let column := least + increment - 1
      let (breaks, c) := emptyLines steps column c
      (breaks, column, c)
  let (text, last, trailing, c) := blockLines folded column steps breaks c
  let ending := match chomping with
    | .clip => last
    | .strip => []
    | .keep => last ++ trailing
  return (String.ofList (text ++ ending), c)

def escapeLetter? (c : Char) : Option Char :=
  match c with
  | '0' => some '\x00'
  | 'a' => some '\x07'
  | 'b' => some '\x08'
  | 't' | '\t' => some '\t'
  | 'n' => some '\n'
  | 'v' => some '\x0b'
  | 'f' => some '\x0c'
  | 'r' => some '\r'
  | 'e' => some '\x1b'
  | ' ' => some ' '
  | '"' => some '"'
  | '\\' => some '\\'
  | '/' => some '/'
  | 'N' => some nextLine
  | '_' => some (Char.ofNat 0xA0)
  | 'L' => some lineSeparator
  | 'P' => some paragraphSeparator
  | _ => none

def escapeWidth? (c : Char) : Option Nat :=
  if c = 'x' then some 2 else if c = 'u' then some 4 else if c = 'U' then some 8 else none

/-- The character of a code point; half a surrogate pair becomes the replacement character. -/
def charOfCode (code : Nat) : Except LexFault Char :=
  if 0x110000 ≤ code then .error (.codeTooLarge code)
  else if 0xD800 ≤ code ∧ code < 0xE000 then .ok Text.replacement
  else .ok (Char.ofNat code)

def quotedBreaks : (steps : Nat) → Cursor → Except LexFault (List Char × Cursor)
  | 0, c => .ok ([], c)
  | steps + 1, c =>
    if c.atSeparator then .error (.malformed "found a document separator in a scalar")
    else
      let c := c.skip fun x => x == ' ' || x == '\t'
      if isBreak c.peek then do
        let (lineBreak, c) := c.lineBreak
        let (breaks, c) ← quotedBreaks steps c
        return (lineBreak ++ breaks, c)
      else .ok ([], c)

/-- Blanks inside a quoted scalar; a line break counts as a blank, and empty lines as breaks. -/
def quotedBlanks (c : Cursor) : Except LexFault (List Char × Cursor) := do
  let (blanks, c) := c.span fun x => x == ' ' || x == '\t'
  if c.peek = endMark then throw (.malformed "found the end of the text in a scalar")
  if !isBreak c.peek then return (blanks, c)
  let (lineBreak, c) := c.lineBreak
  let (breaks, c) ← quotedBreaks (c.rest.length + 1) c
  let joint := if lineBreak ≠ ['\n'] then lineBreak else if breaks.isEmpty then [' '] else []
  return (joint ++ breaks, c)

def scanEscape (c : Cursor) : Except LexFault (List Char × Cursor) := do
  match escapeLetter? c.peek, escapeWidth? c.peek with
  | some meant, _ => return ([meant], c.step)
  | none, some width =>
    let written := c.step.rest.take width
    match written.mapM Bytes.hexValue? with
    | none => throw (.malformed "expected hexadecimal digits")
    | some values =>
      if values.length < width then throw (.malformed "expected hexadecimal digits")
      let code := values.foldl (fun code value => 16 * code + value) 0
      return ([← charOfCode code], c.advance (width + 1))
  | none, none =>
    if isBreak c.peek then
      let (_, c) := c.lineBreak
      quotedBreaks (c.rest.length + 1) c
    else throw (.malformed "found an unknown escape")

def isQuotedDark (c : Char) : Bool :=
  !isTabOrGap c && c != '\'' && c != '"' && c != '\\'

def quotedFrom (double : Bool) : (steps : Nat) → Cursor → Except LexFault (List Char × Cursor)
  | 0, _ => .error (.malformed "found the end of the text in a scalar")
  | steps + 1, c => do
    let quote := if double then '"' else '\''
    let (plain, c) := c.span isQuotedDark
    let (piece, c, closed) ←
      if !double && c.peek = '\'' && c.peekAt 1 = '\'' then pure (['\''], c.advance 2, false)
      else if c.peek = quote then pure ([], c.step, true)
      else if c.peek = '\'' || c.peek = '"' || (c.peek = '\\' && !double) then
        pure ([c.peek], c.step, false)
      else if c.peek = '\\' then do
        let (meant, c) ← scanEscape c.step
        pure (meant, c, false)
      else do
        let (blanks, c) ← quotedBlanks c
        pure (blanks, c, false)
    if closed then return (plain, c)
    let (more, c) ← quotedFrom double steps c
    return (plain ++ piece ++ more, c)

/-- The rest of a line's plain text: it ends before a gap, a colon with a gap after it, and in flow
context also before the marks of a collection. -/
def plainRun (inFlow : Bool) : List Char → List Char
  | [] => []
  | c :: rest =>
    let next := rest.headD endMark
    if isTabOrGap c then []
    else if c = ':' && (isTabOrGap next || (inFlow && ",[]\x7b\x7d".toList.contains next)) then []
    else if inFlow && ",?[]\x7b\x7d".toList.contains c then []
    else c :: plainRun inFlow rest

/-- Empty lines between the lines of a plain scalar, unless a document ends there. -/
def plainBreaks : (steps : Nat) → Cursor → Option (List Char) × Cursor
  | 0, c => (some [], c)
  | steps + 1, c =>
    let c := c.skip (· == ' ')
    if isBreak c.peek then
      let (lineBreak, c) := c.lineBreak
      if c.atSeparator then (none, c)
      else
        let (breaks, c) := plainBreaks steps c
        (breaks.map (lineBreak ++ ·), c)
    else (some [], c)

/-- What joins two runs of a plain scalar, and whether there was a line break; nothing joins them
where the scalar must end. -/
def plainBlanks (c : Cursor) : List Char × Bool × Cursor :=
  let (blanks, c) := c.span (· == ' ')
  if !isBreak c.peek then (blanks, false, c)
  else
    let (lineBreak, c) := c.lineBreak
    if c.atSeparator then ([], true, c)
    else
      let (breaks, c) := plainBreaks (c.rest.length + 1) c
      match breaks with
      | none => ([], true, c)
      | some breaks =>
        let joint :=
          if lineBreak ≠ ['\n'] then lineBreak else if breaks.isEmpty then [' '] else []
        (joint ++ breaks, true, c)

/-- The rest of a plain scalar, and whether it ends at the start of a line. -/
def plainFrom (inFlow : Bool) (indent : Int) :
    (steps : Nat) → (blanks : List Char) → (broke : Bool) → Cursor → List Char × Bool × Cursor
  | 0, _, broke, c => ([], broke, c)
  | steps + 1, blanks, broke, c =>
    let run := if c.peek = '#' then [] else plainRun inFlow c.rest
    if run.isEmpty then ([], broke, c)
    else
      let (next, broke, c) := plainBlanks (c.advance run.length)
      if next.isEmpty || c.peek = '#' || (!inFlow && (c.column : Int) < indent) then
        (blanks ++ run, broke, c)
      else
        let (more, broke, c) := plainFrom inFlow indent steps next broke c
        (blanks ++ run ++ more, broke, c)

/-- Marks that start or end a document, or a directive, end all block collections. -/
def resetBlocks : Lex Unit := do
  closeBlocks (-1)
  dropKey
  allowKey false

def lexSeparator (token : Token) : Lex Unit := do
  resetBlocks
  moveTo ((← get).cursor.advance 3)
  emit token

def lexFlowStart (token : Token) : Lex Unit := do
  keepKey
  modify fun lexer => { lexer with
    flowLevel := lexer.flowLevel + 1
    keys := none :: lexer.keys
    keyAllowed := true
    cursor := lexer.cursor.step }
  emit token

def lexFlowEnd (token : Token) : Lex Unit := do
  dropKey
  if (← get).flowLevel = 0 then malformed "found the end of no collection"
  modify fun lexer => { lexer with
    flowLevel := lexer.flowLevel - 1
    keys := lexer.keys.drop 1
    keyAllowed := false
    cursor := lexer.cursor.step }
  emit token

def lexFlowEntry : Lex Unit := do
  allowKey true
  dropKey
  moveTo (← get).cursor.step
  emit .flowEntry

def lexBlockEntry : Lex Unit := do
  let lexer ← get
  if lexer.flowLevel = 0 then
    if !lexer.keyAllowed then malformed "sequence entries are not allowed here"
    if ← openBlock lexer.cursor.column then emit .blockSequenceStart
  allowKey true
  dropKey
  moveTo (← get).cursor.step
  emit .blockEntry

def lexKey : Lex Unit := do
  let lexer ← get
  if lexer.flowLevel = 0 then
    if !lexer.keyAllowed then malformed "mapping keys are not allowed here"
    if ← openBlock lexer.cursor.column then emit .blockMappingStart
  allowKey (lexer.flowLevel == 0)
  dropKey
  moveTo (← get).cursor.step
  emit .key

def emitAt (number : Nat) (token : Token) : Lex Unit :=
  modify fun lexer => { lexer with tokens := lexer.tokens.insertIdxIfInBounds number token }

def lexValue : Lex Unit := do
  let lexer ← get
  match lexer.keys with
  | some key :: outer =>
    set { lexer with keys := none :: outer }
    emitAt key.number .key
    if lexer.flowLevel = 0 then
      if ← openBlock key.column then emitAt key.number .blockMappingStart
    allowKey false
  | _ =>
    if lexer.flowLevel = 0 then
      if !lexer.keyAllowed then malformed "mapping values are not allowed here"
      if ← openBlock lexer.cursor.column then emit .blockMappingStart
    allowKey (lexer.flowLevel == 0)
    dropKey
  moveTo (← get).cursor.step
  emit .value

def lexWord (scan : Cursor → Except LexFault (Token × Cursor)) : Lex Unit := do
  keepKey
  allowKey false
  let (token, c) ← scan (← get).cursor
  moveTo c
  emit token

def lexBlockScalar (folded : Bool) : Lex Unit := do
  allowKey true
  dropKey
  let lexer ← get
  let (text, c) ← scanBlockScalar folded lexer.indent lexer.cursor
  moveTo c
  emit (.scalar text false)

def lexQuoted (double : Bool) : Lex Unit :=
  lexWord fun c => do
    let (text, c) ← quotedFrom double (c.rest.length + 1) c.step
    return (.scalar (String.ofList text) false, c)

def lexPlain : Lex Unit := do
  keepKey
  let lexer ← get
  let c := lexer.cursor
  let (text, broke, c) :=
    plainFrom (lexer.flowLevel != 0) (lexer.indent + 1) (c.rest.length + 1) [] false c
  allowKey broke
  moveTo c
  emit (.scalar (String.ofList text) true)

def startsPlain (inFlow : Bool) (c : Cursor) : Bool :=
  let first := c.peek
  !(isTabOrGap first || "-?:,[]\x7b\x7d#&*!|>'\"%@`".toList.contains first) ||
    (!isTabOrGap (c.peekAt 1) && (first == '-' || (!inFlow && (first == '?' || first == ':'))))

/-- Reads one token, or all that the end of the text closes; the answer says whether it is the end. -/
def lexToken : Lex Bool := do
  skipToToken
  dropStaleKeys
  closeBlocks (← get).cursor.column
  let lexer ← get
  let c := lexer.cursor
  let inFlow := lexer.flowLevel != 0
  let first := c.peek
  let gapNext := isTabOrGap (c.peekAt 1)
  if first = endMark then
    resetBlocks
    return true
  if first = '%' && c.column = 0 then
    resetBlocks
    let (directive, c) ← scanDirective c
    moveTo c
    emit (.directive directive)
  else if first = '-' && c.column = 0 && c.atSeparator then lexSeparator .documentStart
  else if first = '.' && c.column = 0 && c.atSeparator then lexSeparator .documentEnd
  else if first = '[' then lexFlowStart .flowSequenceStart
  else if first = '\x7b' then lexFlowStart .flowMappingStart
  else if first = ']' then lexFlowEnd .flowSequenceEnd
  else if first = '\x7d' then lexFlowEnd .flowMappingEnd
  else if first = ',' then lexFlowEntry
  else if first = '-' && gapNext then lexBlockEntry
  else if first = '?' && (inFlow || gapNext) then lexKey
  else if first = ':' && (inFlow || gapNext) then lexValue
  else if first = '*' then
    lexWord fun c => (scanAnchor c).map fun (name, c) => (.alias name, c)
  else if first = '&' then
    lexWord fun c => (scanAnchor c).map fun (name, c) => (.anchor name, c)
  else if first = '!' then lexWord fun c => (scanTag c).map fun (tag, c) => (.tag tag, c)
  else if first = '|' && !inFlow then lexBlockScalar false
  else if first = '>' && !inFlow then lexBlockScalar true
  else if first = '\'' then lexQuoted false
  else if first = '"' then lexQuoted true
  else if startsPlain inFlow c then lexPlain
  else malformed "found a character that starts no token"
  return false

/-- The tokens up to the end, or up to the first fault. -/
def lexFrom : (steps : Nat) → Lexer → List Token × Option LexFault
  | 0, lexer => (lexer.tokens.toList, none)
  | steps + 1, lexer =>
    match lexToken.run lexer with
    | .error fault => (lexer.tokens.toList, some fault)
    | .ok (true, lexer) => (lexer.tokens.toList, none)
    | .ok (false, lexer) => lexFrom steps lexer

/-- The tokens of a text, and the fault that ends them early. -/
def tokens (text : List Char) : List Token × Option LexFault :=
  if text.all isAllowed then
    lexFrom (text.length + 2)
      { cursor := ⟨text, 0, 0, 0⟩, flowLevel := 0, indent := -1, outerIndents := []
        keyAllowed := true, keys := [none], tokens := #[] }
  else ([], some (.malformed "found a character that is not allowed"))

end AcmeClient.Yaml
