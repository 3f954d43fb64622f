import AcmeClient.Calendar
import AcmeClient.Fault

namespace AcmeClient.Logging

namespace Level

def critical : Int := 50
def error : Int := 40
def warning : Int := 30
def info : Int := 20
def debug : Int := 10
def unset : Int := 0

def names : List (String × Int) := [
  ("CRITICAL", critical), ("FATAL", critical), ("ERROR", error), ("WARNING", warning),
  ("WARN", warning), ("INFO", info), ("DEBUG", debug), ("NOTSET", unset)]

/-- The name of a level, or its number if it has none. -/
def name (level : Int) : String :=
  match names.find? fun entry => entry.2 == level with
  | some (name, _) => name
  | none => s!"Level {level}"

end Level

inductive Extra where
  | value (value : Json)
  | bytes (bytes : Bytes)
deriving Repr

/-- A failure that a record tells of; there may be none although one is spoken of. -/
inductive Incident where
  | raised (name text : String)
  | nothing
deriving DecidableEq, Repr

structure Record where
  level : Int
  logger : String
  template : String
  arguments : List Json := []
  created : Seconds
  extras : List (String × Extra) := []
  incident : Option Incident := none
  stack : String := ""
deriving Repr

namespace Record

/-- The message: the template with the arguments filled in. -/
def message (r : Record) : Except Defect String :=
  match fill r.template r.arguments with
  | .ok text => .ok text
  | .error fault => .error (.template fault)

end Record

/-- A failure by its name and its text, if it has one. The text of a missing key is the key in
quotation marks. -/
def Incident.text : Incident → String
  | .nothing => "NoneType: None"
  | .raised "KeyError" text => "KeyError: " ++ Text.quotedString text
  | .raised name "" => name
  | .raised name text => name ++ ": " ++ text

end AcmeClient.Logging
