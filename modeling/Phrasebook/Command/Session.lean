import Phrasebook.Command.Job
import Phrasebook.Log.Logging

/-!
# Sessions

A session is a succession of runs of the command that share the configuration of logging.
A run that gets past its arguments sets logging up, unless the run before it asked for the
same mode. Then it does its job and writes its text. The exit status is 0 if the text was
written or nobody reads it, 130 after an interruption, 2 if the arguments were refused, and
else 1; a run with status 1 or 130 has logged an error.
-/

namespace Phrasebook.Command

/-- What the environment says to the command. -/
structure Environment where
  jsonLogs : Bool := false
  tracing : Bool := false
  debugging : Bool := false
  deriving DecidableEq, Repr

/-- The environment in which variables have some values. A switch is on if it is 1. -/
def Environment.ofVariables (valueOf : Text → Option Text) : Environment :=
  let isOn (name : String) : Bool := valueOf name.toList == some ['1']
  { jsonLogs := isOn "LANGPACK_JSON_LOGS", tracing := isOn "LANGPACK_TRACE"
    debugging := isOn "DEBUG" }

/-- How a run wants its records. -/
structure Mode where
  format : Log.Format
  verbose : Bool
  deriving DecidableEq, Repr

/-- The mode that settings ask for in an environment. -/
def Settings.mode (env : Environment) (s : Settings) : Mode :=
  { format := if s.jsonLogs || env.jsonLogs then .json else .plain, verbose := s.verbose }

/-- The lowest level that a mode lets pass. -/
def Mode.level (m : Mode) : Log.Level := if m.verbose then Log.debug else Log.info

/-- What the runs of a session leave to the next. -/
structure Session where
  logging : Log.Logging := {}
  /-- The mode that the last run asked for. -/
  mode : Option Mode := none
  deriving DecidableEq, Repr

/-- The world of a run: the files, the environment, the draws, and the time for log lines. -/
structure World where
  tree : Tree
  env : Environment := {}
  draws : Draws
  stamp : Text

/-- What becomes of the text of a run. -/
inductive Delivery where
  | written
  /-- Nobody reads the text any more. -/
  | unread
  | interrupted
  | failed (reason : Text)
  deriving DecidableEq, Repr

/-- How a run ends. -/
inductive Ending where
  | exit (status : Nat)
  /-- The text is given back. -/
  | text (t : Text)
  /-- The fault is handed on. -/
  | fault (f : Fault)
  deriving DecidableEq, Repr

/-- What a run shows. -/
structure Shown where
  stdout : Text := []
  stderr : Text := []
  ending : Ending
  deriving DecidableEq, Repr

namespace Session

/-- Set logging up for a mode, unless it is the one of the run before. -/
def configure (m : Mode) (s : Session) : Session :=
  if s.mode = some m then s
  else { logging := s.logging.setup m.format m.level Log.standardError, mode := some m }

/-- What some records write to the standard error stream. -/
def logged (w : World) (s : Session) (rs : List Log.Record) : Text :=
  Log.Logging.textOf Log.standardError (s.logging.output w.stamp rs)

/-- What the settings ask for is done after logging was set up. -/
def perform (w : World) (settings : Settings) (s : Session) : Done × Session :=
  (settings.perform w.tree { tracing := w.env.tracing } w.draws,
    s.configure (settings.mode w.env))

/-- The arguments were refused. -/
def refuse (f : UsageFault) : Shown := { stderr := f.report, ending := .exit 2 }

/-- Run the command and give its text back. -/
def run (w : World) (arguments : List Text) (s : Session) : Shown × Session :=
  match Request.read arguments with
  | .error f => (refuse f, s)
  | .ok .help => ({ stdout := help, ending := .exit 0 }, s)
  | .ok (.run settings) =>
    let (done, s) := s.perform w settings
    ({ stderr := s.logged w done.records
       ending := match done.result with
         | .ok t => .text t
         | .error f => .fault f }, s)

/-- The end of a run with a fault that it did not report. It is handed on for debugging. -/
def unexpected (w : World) (s : Session) (records : List Log.Record) (f : Fault) : Shown :=
  if w.env.debugging then { stderr := s.logged w records, ending := .fault f }
  else
    { stderr := s.logged w (records ++ [report ("Unexpected error: ".toList ++ f.message)])
      ending := .exit 1 }

/-- The end of a run with a text. -/
def deliver (w : World) (s : Session) (records : List Log.Record) (text : Text) :
    Delivery → Shown
  | .written => { stdout := text, stderr := s.logged w records, ending := .exit 0 }
  | .unread => { stderr := s.logged w records, ending := .exit 0 }
  | .interrupted =>
    { stderr := s.logged w (records ++ [report "Interrupted by user.".toList])
      ending := .exit 130 }
  | .failed reason => s.unexpected w records (.unwritable reason)

/-- The end of a run that did its job. -/
def finish (w : World) (s : Session) (delivery : Delivery) (d : Done) : Shown :=
  match d.result with
  | .ok text => s.deliver w d.records text delivery
  | .error (.refused _) => { stderr := s.logged w d.records, ending := .exit 1 }
  | .error f => s.unexpected w d.records f

/-- Run the command to its exit status. -/
def main (w : World) (delivery : Delivery) (arguments : List Text) (s : Session) :
    Shown × Session :=
  match Request.read arguments with
  | .error f => (refuse f, s)
  | .ok .help => (s.deliver w [] help delivery, s)
  | .ok (.run settings) =>
    let (done, s) := s.perform w settings
    (s.finish w delivery done, s)

/-- Run the command as a program of its own in the session: it does not know the mode of the
run before, and the next run does not know its mode. -/
def mainAlone (w : World) (delivery : Delivery) (arguments : List Text) (s : Session) :
    Shown × Session :=
  let (shown, after) := main w delivery arguments { s with mode := none }
  (shown, { after with mode := s.mode })

end Session

end Phrasebook.Command
