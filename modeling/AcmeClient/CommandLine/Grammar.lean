import AcmeClient.Assoc
import AcmeClient.Number.Numeral
import AcmeClient.Text.Quoted

/-!
Reading command lines by a grammar of options and operands. Options may be cut short as long as one
option alone starts so, may be joined with their value, and may stand anywhere; operands are taken as
soon as they stand in front of an option.
-/

namespace AcmeClient.CommandLine

inductive Effect where
  | takeValue
  | setFlag
  | showHelp
  | showVersion
deriving DecidableEq, Repr

structure OptionRule where
  names : List String
  effect : Effect
  required : Bool
deriving DecidableEq, Repr

def OptionRule.label (rule : OptionRule) : String := "/".intercalate rule.names

/-- How many words an operand takes. A command takes all words from its own on. -/
inductive Arity where
  | one
  | many
  | command (choices : List String)
deriving DecidableEq, Repr

structure OperandRule where
  name : String
  arity : Arity
deriving DecidableEq, Repr

structure Grammar where
  program : String
  options : List OptionRule
  operands : List OperandRule
deriving DecidableEq, Repr

inductive Stop where
  | help (program : String)
  | version
  | misuse (program reason : String)
deriving DecidableEq, Repr

/-- The values of what was found, by label, and the words that belong to nothing. -/
structure Findings where
  values : List (String × List String)
  extras : List String
deriving DecidableEq, Repr

def Findings.values? (findings : Findings) (label : String) : Option (List String) :=
  Assoc.find? label findings.values

def Findings.value (findings : Findings) (label : String) : String :=
  ((findings.values? label).bind List.head?).getD ""

/-- The value that an option's own word gives it, and whether an equals sign stands before it. -/
structure Attachment where
  afterEquals : Bool
  text : List Char
deriving DecidableEq, Repr

structure Naming where
  rule : OptionRule
  name : String
  attached : Option Attachment
deriving DecidableEq, Repr

/-- The part that a word plays: an option, known or not, something else, or the mark after which
nothing is an option. -/
inductive Word where
  | option (naming : Option Naming) (text : String)
  | plain (text : String)
  | separator
deriving DecidableEq, Repr

namespace Word

def text : Word → String
  | .option _ text | .plain text => text
  | .separator => "--"

def isOption : Word → Bool
  | .option _ _ => true
  | _ => false

end Word

namespace Grammar

def misuse (g : Grammar) (reason : String) : Except Stop α := .error (.misuse g.program reason)

/-- All names of options, in order. -/
def names (g : Grammar) : List (String × OptionRule) :=
  g.options.flatMap fun rule => rule.names.map fun name => (name, rule)

def splitEquals (text : List Char) : List Char × Option (List Char) :=
  let before := text.takeWhile (· != '=')
  (before, match text.drop before.length with
    | [] => none
    | _ :: after => some after)

/-- The options that a word may mean: those whose names start like it, or, if it has a single dash,
the one-letter option that it starts with. -/
def candidates (g : Grammar) (text : List Char) : List Naming :=
  match text with
  | '-' :: '-' :: _ =>
    let (start, after) := splitEquals text
    g.names.filterMap fun (name, rule) =>
      if start.isPrefixOf name.toList then some ⟨rule, name, after.map (⟨true, ·⟩)⟩ else none
  | _ =>
    g.names.filterMap fun (name, rule) =>
      if name.toList = text.take 2 then some ⟨rule, name, some ⟨false, text.drop 2⟩⟩
      else if text.isPrefixOf name.toList then some ⟨rule, name, none⟩
      else none

def isDigit (c : Char) : Bool := (Numeral.digit? c).isSome

/-- Whether a text is a number below zero; a line may end after it. -/
def isNegativeNumber (text : List Char) : Bool :=
  match text with
  | '-' :: rest =>
    let rest := if rest.getLast? = some '\n' then rest.dropLast else rest
    let after := rest.dropWhile isDigit
    match after with
    | [] => !rest.isEmpty
    | '.' :: fraction => !fraction.isEmpty && fraction.all isDigit
    | _ => false
  | _ => false

def classify (g : Grammar) (text : String) : Except Stop Word :=
  let chars := text.toList
  if chars.head? ≠ some '-' then .ok (.plain text)
  else
    match Assoc.find? text g.names with
    | some rule => .ok (.option (some ⟨rule, text, none⟩) text)
    | none =>
      if chars.length = 1 then .ok (.plain text)
      else
        let (start, after) := splitEquals chars
        match after, Assoc.find? (String.ofList start) g.names with
        | some after, some rule =>
          .ok (.option (some ⟨rule, String.ofList start, some ⟨true, after⟩⟩) text)
        | _, _ =>
          match g.candidates chars with
          | [naming] => .ok (.option (some naming) text)
          | [] =>
            if isNegativeNumber chars || chars.contains ' ' then .ok (.plain text)
            else .ok (.option none text)
          | several =>
            g.misuse (s!"ambiguous option: {text} could match "
              ++ ", ".intercalate (several.map Naming.name))

def classifyAll (g : Grammar) : List String → Except Stop (List Word)
  | [] => .ok []
  | "--" :: rest => .ok (.separator :: rest.map .plain)
  | text :: rest => do
    let word ← g.classify text
    return word :: (← g.classifyAll rest)

/-- What one word of options calls for: options with their values, a word that belongs to nothing, and
the words that follow. -/
structure Unfolded where
  uses : List (OptionRule × List String)
  extra : List String
  rest : List Word
deriving DecidableEq, Repr

def ignored (g : Grammar) (rule : OptionRule) (text : List Char) : Except Stop α :=
  g.misuse s!"argument {rule.label}: ignored explicit argument {String.ofList (Text.quoted text)}"

def detached (g : Grammar) (rule : OptionRule) (rest : List Word) : Except Stop Unfolded :=
  if rule.effect = .takeValue then
    match rest with
    | .plain value :: rest => .ok ⟨[(rule, [value])], [], rest⟩
    | _ => g.misuse s!"argument {rule.label}: expected one argument"
  else .ok ⟨[(rule, [])], [], rest⟩

/-- An option with more text in its word. After a one-letter option without a value, that text names
further options. -/
def attached (g : Grammar) (rule : OptionRule) (isShort afterEquals : Bool) (text : List Char)
    (rest : List Word) : Except Stop Unfolded :=
  if rule.effect = .takeValue then .ok ⟨[(rule, [String.ofList text])], [], rest⟩
  else
    match text with
    | [] => g.ignored rule []
    | c :: more =>
      if !isShort || afterEquals || c == '-' then g.ignored rule (c :: more)
      else
        match Assoc.find? (String.ofList ['-', c]) g.names with
        | none => .ok ⟨[(rule, [])], [String.ofList ('-' :: c :: more)], rest⟩
        | some next => do
          let unfolded ← match more with
            | [] => g.detached next rest
            | '=' :: value => g.attached next true true value rest
            | more => g.attached next true false more rest
          return { unfolded with uses := (rule, []) :: unfolded.uses }
termination_by text.length

def isShortName (name : String) : Bool := name.toList[1]? != some '-'

def unfold (g : Grammar) (naming : Option Naming) (text : String) (rest : List Word) :
    Except Stop Unfolded :=
  match naming with
  | none => .ok ⟨[], [text], rest⟩
  | some ⟨rule, _, none⟩ => g.detached rule rest
  | some ⟨rule, name, some more⟩ =>
    g.attached rule (isShortName name) more.afterEquals more.text rest

/-- Applies options in order. Help and version end the reading. -/
def applyOptions (g : Grammar) (findings : Findings) :
    List (OptionRule × List String) → Except Stop Findings
  | [] => .ok findings
  | (rule, values) :: rest =>
    match rule.effect with
    | .showHelp => .error (.help g.program)
    | .showVersion => .error .version
    | _ =>
      g.applyOptions { findings with values := Assoc.insert rule.label values findings.values } rest

def isSeparator (word : Word) : Bool := word == .separator

/-- One plain word, with separators around it. -/
def takeOne (words : List Word) : Option (List Word × List Word) :=
  let before := words.takeWhile isSeparator
  match words.drop before.length with
  | .plain text :: rest =>
    let after := rest.takeWhile isSeparator
    some (before ++ .plain text :: after, rest.drop after.length)
  | _ => none

/-- The words that an operand takes, and those after them. -/
def take (arity : Arity) (words : List Word) : Option (List Word × List Word) :=
  match arity with
  | .one => takeOne words
  | .many => some (words.span fun word => !word.isOption)
  | .command _ => (takeOne words).map fun _ => (words, [])

/-- The texts of an operand's words. A separator is left out, except before a command. -/
def operandValues (g : Grammar) (rule : OperandRule) (words : List Word) :
    Except Stop (List String) :=
  let texts := words.map Word.text
  match rule.arity with
  | .command choices =>
    let name := texts.headD ""
    if choices.contains name then .ok texts
    else
      g.misuse (s!"argument {rule.name}: invalid choice: {Text.quotedString name} (choose from "
        ++ ", ".intercalate (choices.map Text.quotedString) ++ ")")
  | _ => .ok (texts.erase "--")

def takeOperands (g : Grammar) : (rules : List OperandRule) → List Word → Findings →
    Except Stop (List OperandRule × List Word × Findings)
  | [], words, findings => .ok ([], words, findings)
  | rule :: rules, words, findings =>
    match take rule.arity words with
    | none => .ok (rule :: rules, words, findings)
    | some (taken, rest) => do
      let values ← g.operandValues rule taken
      let values := Assoc.insert rule.name values findings.values
      g.takeOperands rules rest { findings with values }

/-- Operands and options in turn, given a step for each word. -/
def scanWords (g : Grammar) : (steps : Nat) → List OperandRule → List Word → Findings →
    Except Stop Findings
  | 0, _, words, findings =>
    .ok { findings with extras := findings.extras ++ words.map Word.text }
  | steps + 1, rules, words, findings => do
    let before := words.takeWhile fun word => !word.isOption
    let (rules, rest, findings) ←
      if before.isEmpty then pure (rules, words, findings)
      else g.takeOperands rules words findings
    if rest.length < words.length then g.scanWords steps rules rest findings
    else
      let findings := { findings with extras := findings.extras ++ before.map Word.text }
      match words.drop before.length with
      | .option naming text :: rest =>
        let unfolded ← g.unfold naming text rest
        let findings ← g.applyOptions findings unfolded.uses
        g.scanWords steps rules unfolded.rest
          { findings with extras := findings.extras ++ unfolded.extra }
      | _ => return findings

def scan (g : Grammar) (arguments : List String) : Except Stop Findings := do
  let words ← g.classifyAll arguments
  g.scanWords (words.length + 1) g.operands words ⟨[], []⟩

def requireAll (g : Grammar) (findings : Findings) : Except Stop Unit :=
  let labels := ((g.options.filter OptionRule.required).map OptionRule.label)
    ++ g.operands.map OperandRule.name
  let missing := labels.filter fun label => (findings.values? label).isNone
  if missing.isEmpty then .ok ()
  else g.misuse ("the following arguments are required: " ++ ", ".intercalate missing)

end Grammar

end AcmeClient.CommandLine
