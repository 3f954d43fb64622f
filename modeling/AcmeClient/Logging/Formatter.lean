import AcmeClient.Json.Writer
import AcmeClient.Logging.Record
import AcmeClient.Settings.Basic

namespace AcmeClient.Logging

open Calendar

/-- Hours, minutes and seconds. -/
def clockText (t : TimeOfDay) : List Char :=
  padded 2 t.hour ++ ':' :: padded 2 t.minute ++ ':' :: padded 2 t.second

def dayText (year : List Char) (d : Date) : List Char :=
  year ++ '-' :: padded 2 d.month ++ '-' :: padded 2 d.day

/-- A moment for people: years have as many digits as they need. -/
def plainTime (m : Moment) : List Char :=
  dayText (signedDigits m.date.year) m.date ++ ' ' :: clockText m.time

/-- A moment of universal time: years have four digits, and microseconds are left out if there are
none. -/
def exactTime (m : Moment) : List Char :=
  dayText (paddedInt 4 m.date.year) m.date ++ 'T' :: clockText m.time
    ++ (if m.time.microsecond = 0 then [] else '.' :: padded 6 m.time.microsecond)
    ++ "+00:00".toList

def padEnd (width : Nat) (text : List Char) : List Char :=
  text ++ List.replicate (width - text.length) ' '

def addLine (text more : String) : String :=
  if more = "" then text else if text.endsWith "\n" then text ++ more else text ++ "\n" ++ more

/-- Time, level, logger and message; what else there is to tell follows. -/
def textLine (r : Record) : Except Defect String := do
  let message ← r.message
  match clockMoment r.created with
  | .error fault => throw (.timestamp fault)
  | .ok moment =>
    let line := String.ofList (plainTime moment ++ ' ' :: padEnd 8 (Level.name r.level).toList)
      ++ s!" {r.logger}: {message}"
    let line := match r.incident with
      | some incident => addLine line incident.text
      | none => line
    return addLine line r.stack

def ownNames : List String := [
  "args", "asctime", "created", "exc_info", "exc_text", "filename", "funcName", "levelname",
  "levelno", "lineno", "message", "module", "msecs", "msg", "name", "pathname", "process",
  "processName", "relativeCreated", "stack_info", "taskName", "thread", "threadName"]

/-- An extra is told unless its name is a record's own or starts with an underscore. -/
def isTold (name : String) : Bool := !ownNames.contains name && name.toList.head? != some '_'

def Extra.toJson : Extra → Json
  | .value content => content
  | .bytes content => .str (String.ofList (Text.quotedBytes content))

/-- The members of a line: those that every record has, the extras, and what else there is to tell.
An extra does not take the place of a member, but a failure takes that of an extra. -/
def lineMembers (r : Record) (time : List Char) (message : String) : List (String × Json) :=
  let fixed := [("timestamp", Json.str (String.ofList time)), ("level", .str (Level.name r.level)),
    ("logger", .str r.logger), ("message", .str message)]
  let told := (Assoc.ofList r.extras).filter fun extra => isTold extra.1
  let members := told.foldl
    (fun members extra => Assoc.insertNew extra.1 extra.2.toJson members) fixed
  let members := match r.incident with
    | some (.raised name text) =>
      Assoc.insert "exception" (.str (Incident.raised name text).text) members
    | _ => members
  if r.stack = "" then members else Assoc.insert "stack_info" (.str r.stack) members

def jsonLine (r : Record) : Except Defect String := do
  let message ← r.message
  match exactMoment r.created with
  | .error fault => throw (.timestamp fault)
  | .ok moment =>
    let told := Json.obj (lineMembers r (exactTime moment) message)
    if told.hasLongInteger then throw (.longInteger none)
    return String.ofList (Json.write .spaced told)

def line (format : LogFormat) (r : Record) : Except Defect String :=
  match format with
  | .text => textLine r
  | .json => jsonLine r

end AcmeClient.Logging
