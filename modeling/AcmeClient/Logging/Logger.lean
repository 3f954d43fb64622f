import AcmeClient.Logging.Formatter

namespace AcmeClient.Logging

structure Logger where
  name : String
  level : Int
  propagates : Bool
  handlers : List LogFormat
deriving DecidableEq, Repr, Inhabited

namespace Logger

def initial : Logger := ⟨"acmelib", Level.unset, true, []⟩

/-- Words that stand where level names do, but for something else. -/
def lineStyle : String := "%(levelname)s:%(name)s:%(message)s"

def styleTable : String :=
  "\x7b'%': (<class 'logging.PercentStyle'>, '%(levelname)s:%(name)s:%(message)s'), "
    ++ "'\x7b': (<class 'logging.StrFormatStyle'>, '\x7blevelname\x7d:\x7bname\x7d:\x7bmessage\x7d'), "
    ++ "'$': (<class 'logging.StringTemplateStyle'>, "
    ++ "'$\x7blevelname\x7d:$\x7bname\x7d:$\x7bmessage\x7d')\x7d"

/-- The level that a text names in any letter case; a text that names nothing stands for the level of
plain information. -/
def levelOf (text : String) : Except Defect Int :=
  let word := Text.upperString text
  match Level.names.find? fun entry => entry.1 == word with
  | some (_, level) => .ok level
  | none =>
    if word = "BASIC_FORMAT" then .error (.unknownLevel (Text.quotedString lineStyle))
    else if word = "_STYLES" then .error (.levelNotNumber styleTable)
    else .ok Level.info

/-- A logger with one handler, whatever handlers it had. -/
def configure (logger : Logger) (settings : LogSettings) : Except Defect Logger := do
  let level ← levelOf settings.level
  return { logger with level, propagates := false, handlers := [settings.format] }

/-- Whether records of a level are written. A logger without a level of its own goes by that of its
parent. -/
def admits (logger : Logger) (parentLevel level : Int) : Bool :=
  (if logger.level = Level.unset then parentLevel else logger.level) ≤ level

end Logger

end AcmeClient.Logging
