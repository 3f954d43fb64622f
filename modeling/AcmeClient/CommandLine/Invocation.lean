import AcmeClient.CommandLine.Grammar

namespace AcmeClient.CommandLine

inductive Command where
  | account (showKey : Bool)
  | order (primary : String) (others : List String)
  | certificate (name : String)
deriving DecidableEq, Repr

structure Invocation where
  config : String
  debug : Bool
  email : String
  command : Command
deriving DecidableEq, Repr

namespace Invocation

def program : String := "acmelib"

def helpRule : OptionRule := ⟨["-h", "--help"], .showHelp, false⟩
def configRule : OptionRule := ⟨["-c", "--config"], .takeValue, true⟩
def debugRule : OptionRule := ⟨["--debug"], .setFlag, false⟩
def versionRule : OptionRule := ⟨["-v", "--version"], .showVersion, false⟩
def emailRule : OptionRule := ⟨["--email"], .takeValue, true⟩
def showKeyRule : OptionRule := ⟨["--show-key"], .setFlag, false⟩

def primaryRule : OperandRule := ⟨"primary_name", .one⟩
def othersRule : OperandRule := ⟨"alt_names", .many⟩

def commandGrammars : List (String × Grammar) := [
  ("account", ⟨program ++ " account", [helpRule, emailRule, showKeyRule], []⟩),
  ("order", ⟨program ++ " order", [helpRule, emailRule], [primaryRule, othersRule]⟩),
  ("certificate", ⟨program ++ " certificate", [helpRule, emailRule], [primaryRule]⟩)]

def commandRule : OperandRule := ⟨"command", .command (commandGrammars.map Prod.fst)⟩

def grammar : Grammar :=
  ⟨program, [helpRule, configRule, debugRule, versionRule], [commandRule]⟩

def commandOf (name : String) (found : Findings) : Command :=
  if name = "account" then .account (found.values? showKeyRule.label).isSome
  else if name = "order" then
    .order (found.value primaryRule.name) ((found.values? othersRule.name).getD [])
  else .certificate (found.value primaryRule.name)

/-- The name of the command on a line, what was found of it, and the words that belong to nothing. -/
def readCommand (outer : Findings) : Except Stop (String × Findings) :=
  match outer.values? commandRule.name with
  | none | some [] => .ok ("", ⟨[], []⟩)
  | some (name :: words) =>
    match Assoc.find? name commandGrammars with
    | none => .ok (name, ⟨[], []⟩)
    | some inner => do
      let found ← inner.scan words
      inner.requireAll found
      return (name, found)

/-- Reads a command line. What is wrong with the command itself is told first, then what is missing
before it, and words that belong to nothing last. -/
def read (arguments : List String) : Except Stop Invocation := do
  let outer ← grammar.scan arguments
  let (name, inner) ← readCommand outer
  grammar.requireAll outer
  let extras := outer.extras ++ inner.extras
  if !extras.isEmpty then
    grammar.misuse ("unrecognized arguments: " ++ " ".intercalate extras)
  else
    return {
      config := outer.value configRule.label
      debug := (outer.values? debugRule.label).isSome
      email := inner.value emailRule.label
      command := commandOf name inner }

end Invocation

end AcmeClient.CommandLine
