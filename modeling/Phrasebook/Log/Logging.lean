import Phrasebook.Log.Format

/-!
# The configuration of logging

The base logger has a level and handlers. Setting it up installs one handler and cuts the
logger off from what stands above it; setting it up again changes the level only. A record
passes if its level reaches that of its logger: the base logger's where that is set and the
logger stands below it, else that of warnings. A record that no handler takes goes to the
standard error stream, but only from warnings up and as its bare message.

A logger factory sets the base logger up when it is first asked for a logger.
-/

namespace Phrasebook.Log

/-- A handler writes records in a format to a stream. -/
structure Handler where
  format : Format
  stream : Text
  deriving DecidableEq, Repr

/-- The state of the base logger. A level of zero is not set. -/
structure Logging where
  level : Level := 0
  handlers : List Handler := []
  deriving DecidableEq, Repr

/-- The name of the standard error stream. -/
def standardError : Text := "stderr".toList

namespace Logging

/-- Set the base logger up: the first time with a handler, later the level alone. -/
def setup (format : Format) (level : Level) (stream : Text) (l : Logging) : Logging :=
  if l.handlers.isEmpty then { level, handlers := [⟨format, stream⟩] } else { l with level }

/-- Do records of the base logger go on to what stands above it? -/
def propagates (l : Logging) : Bool := l.handlers.isEmpty

/-- Is the logger the base logger, or below it? -/
def isBelowBase (logger : Text) : Bool :=
  logger == baseName || (baseName ++ ['.']).isPrefixOf logger

/-- The level that a record of a logger has to reach. -/
def threshold (l : Logging) (logger : Text) : Level :=
  if isBelowBase logger && l.level != 0 then l.level else warning

/-- Does a record pass? One of level zero or below never does. -/
def passes (l : Logging) (r : Record) : Bool := 0 < r.level && l.threshold r.logger ≤ r.level

/-- What a record that passes writes to which streams. -/
def written (l : Logging) (stamp : Text) (r : Record) : List (Text × Text) :=
  if isBelowBase r.logger && !l.handlers.isEmpty then
    l.handlers.map fun h => (h.stream, h.format.line stamp r ++ ['\n'])
  else if warning ≤ r.level then [(standardError, r.message ++ ['\n'])]
  else []

/-- What some records write, one after the other. -/
def output (l : Logging) (stamp : Text) (rs : List Record) : List (Text × Text) :=
  (rs.filter l.passes).flatMap (l.written stamp)

/-- What is written to one stream. -/
def textOf (stream : Text) (out : List (Text × Text)) : Text :=
  (out.filter fun w => w.1 == stream).flatMap Prod.snd

end Logging

/-- A logger factory and whether it has set the base logger up. -/
structure LoggerFactory where
  format : Format := .plain
  level : Level := info
  stream : Text := standardError
  configured : Bool := false

namespace LoggerFactory

/-- Ask for a logger. -/
def logger (f : LoggerFactory) (name : Text) (l : Logging) : Text × LoggerFactory × Logging :=
  (loggerName name, { f with configured := true },
    if f.configured then l else l.setup f.format f.level f.stream)

end LoggerFactory

/-- The names that a trace has of its own, so that none of its particulars may have them. -/
def ownNames : List Text := ["logger".toList, "message".toList]

/-- A particular of a trace has a name that the trace has of its own. -/
structure NameTaken where
  name : Text
  deriving DecidableEq, Repr

/-- The record of a trace: a message, and its particulars unless there are none. -/
def traceRecord (logger message : Text) (particulars : List (Text × Value)) :
    Except NameTaken Record :=
  match particulars.find? fun p => ownNames.contains p.1 with
  | some p => .error ⟨p.1⟩
  | none => .ok
    { logger, level := debug
      message := if particulars.isEmpty then message
        else message ++ " | ctx=".toList ++
          (Value.dict (particulars.map fun p => (.ofText p.1, p.2))).literal }

end Phrasebook.Log
