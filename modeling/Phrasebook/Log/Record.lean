import Phrasebook.Value

/-!
# Log records

A record is a message with a level, under the name of the logger that it was given to. The
loggers of the library stand below the base logger. Levels are numbers, of which six have a
name.
-/

namespace Phrasebook.Log

/-- A level of importance. -/
abbrev Level := Int

def debug : Level := 10
def info : Level := 20
def warning : Level := 30
def error : Level := 40
def critical : Level := 50

/-- The name of a level. -/
def levelName (level : Level) : Text :=
  if level = 0 then "NOTSET".toList
  else if level = debug then "DEBUG".toList
  else if level = info then "INFO".toList
  else if level = warning then "WARNING".toList
  else if level = error then "ERROR".toList
  else if level = critical then "CRITICAL".toList
  else "Level ".toList ++ Text.ofInt level

/-- A message given to a logger. -/
structure Record where
  logger : Text
  level : Level
  message : Text
  context : Value := .null

/-- The version of the library, which log lines carry. -/
def version : Text := "1.0.0".toList

/-- The name of the base logger. -/
def baseName : Text := "langpack".toList

/-- The full name of a logger. No name is the base logger, a name that starts like the base
logger's is kept, and any other stands below the base logger. -/
def loggerName (name : Text) : Text :=
  if name.isEmpty || name == baseName then baseName
  else if baseName.isPrefixOf name then name
  else baseName ++ '.' :: name

end Phrasebook.Log
