import Phrasebook.Command.Session
import Phrasebook.Proofs.Log.Output

/-!
# The configuration of logging over a session

Two things are done once: a run that asks for the mode of the run before leaves logging alone, and
the base logger is given a handler only if it has none. What is left after any number of calls is
`Session.configured` of the modes that the calls asked for, without those that were refused for
their arguments or wanted help: the format is the first, the level the last. One call more is one
mode more (`Session.configure_configured`), for if its mode is the one that is remembered, the level
is its level already. From this the rest is read off (`Session.logging_follows`).

The command run as a program of its own shares logging with a session, but not what is remembered.
Such a run is none of the calls; it configures logging as if its mode were new, and the session
remembers the mode that it remembered before (`Session.mainAlone_configured`).
-/

namespace Phrasebook

namespace Command

/-- A call of the command in a session. -/
structure Call where
  world : World
  arguments : List Text
  /-- What becomes of the text, if it is written and not given back. -/
  delivery : Option Delivery

namespace Call

/-- Make a call. -/
def perform (c : Call) (s : Session) : Shown × Session :=
  match c.delivery with
  | none => s.run c.world c.arguments
  | some delivery => s.main c.world delivery c.arguments

/-- The mode that a call asks for, if it gets past its arguments. -/
def mode? (c : Call) : Option Mode :=
  match Request.read c.arguments with
  | .ok (.run settings) => some (settings.mode c.world.env)
  | _ => none

/-- A call configures logging for its mode and leaves nothing else behind. -/
theorem perform_session (c : Call) (s : Session) :
    (c.perform s).2 = match c.mode? with
      | none => s
      | some m => s.configure m := by
  unfold perform mode? Session.run Session.main
  cases c.delivery with
  | none =>
    cases Request.read c.arguments with
    | error f => rfl
    | ok request => cases request <;> rfl
  | some delivery =>
    cases Request.read c.arguments with
    | error f => rfl
    | ok request => cases request <;> rfl

end Call

theorem Mode.level_pos (m : Mode) : 0 < m.level := by
  unfold level
  split <;> decide

theorem Mode.level_le (m : Mode) : m.level ≤ Log.info := by
  unfold level
  split <;> decide

namespace Session

/-- The session that calls leave which ask for some modes. -/
def configured : List Mode → Session
  | [] => {}
  | first :: more =>
    let last := more.getLast?.getD first
    { logging := { level := last.level, handlers := [⟨first.format, Log.standardError⟩] }
      mode := some last }

/-- To set logging up again for the mode that is remembered would change nothing. -/
theorem setup_remembered {ms : List Mode} {m : Mode} (h : (configured ms).mode = some m) :
    (configured ms).logging.setup m.format m.level Log.standardError =
      (configured ms).logging := by
  cases ms with
  | nil => cases h
  | cons first more =>
    obtain rfl : more.getLast?.getD first = m := Option.some.inj h
    rfl

/-- So a mode always configures logging as if it were new. -/
theorem configure_eq (ms : List Mode) (m : Mode) :
    (configured ms).configure m =
      { logging := (configured ms).logging.setup m.format m.level Log.standardError
        mode := some m } := by
  unfold configure
  split
  · next same => rw [setup_remembered same, ← same]
  · rfl

/-- One mode more is asked for. -/
theorem configure_configured (ms : List Mode) (m : Mode) :
    (configured ms).configure m = configured (ms ++ [m]) := by
  rw [configure_eq]
  cases ms with
  | nil => rfl
  | cons first more =>
    have last : (more ++ [m]).getLast?.getD first = m := by simp
    rw [List.cons_append, configured, configured, last]
    rfl

/-- The session after some calls in a process in which nothing was logged before. -/
def after (calls : List Call) : Session := calls.foldl (fun s c => (c.perform s).2) {}

theorem after_eq (calls : List Call) : after calls = configured (calls.filterMap Call.mode?) := by
  have go (ms : List Mode) : calls.foldl (fun s c => (c.perform s).2) (configured ms) =
      configured (ms ++ calls.filterMap Call.mode?) := by
    induction calls generalizing ms with
    | nil => rw [List.filterMap_nil, List.append_nil, List.foldl_nil]
    | cons c calls ih =>
      rw [List.foldl_cons, Call.perform_session]
      cases asked : c.mode? with
      | none => rw [List.filterMap_cons_none asked, ih]
      | some m =>
        dsimp only
        rw [List.filterMap_cons_some asked, configure_configured, ih, List.append_assoc]
        rfl
  exact go []

/-- The command as a program of its own configures logging like one call more, but the session
remembers the mode that it remembered before. -/
theorem mainAlone_configured (calls : List Call) (w : World) (delivery : Delivery)
    {arguments : List Text} {settings : Settings}
    (past : Request.read arguments = .ok (.run settings)) :
    ((after calls).mainAlone w delivery arguments).2 =
      { configured (calls.filterMap Call.mode? ++ [settings.mode w.env]) with
        mode := (after calls).mode } := by
  rw [after_eq, ← configure_configured, configure_eq]
  simp only [mainAlone, main, past, perform, configure, reduceCtorEq, if_false]

/-- **Logging follows the calls.** However the calls of a session alternate between modes, and
whichever of them are refused for their arguments: the base logger has no handler until a call gets
past its arguments, and from then on one, which writes to the standard error stream in the format
that the first such call asked for; the level is the one that the last such call asked for. So each
record of the library that reaches the level is written exactly once. -/
theorem logging_follows (calls : List Call) :
    let logging := (after calls).logging
    let modes := calls.filterMap Call.mode?
    (modes = [] → logging.handlers = []) ∧
    (∀ first more, modes = first :: more →
      logging.handlers = [⟨first.format, Log.standardError⟩] ∧
      ∀ stamp rs, (∀ r ∈ rs, Log.Logging.isBelowBase r.logger = true) →
        logging.output stamp rs =
          (rs.filter fun r => logging.level ≤ r.level).map fun r =>
            (Log.standardError, first.format.line stamp r ++ ['\n'])) ∧
    ∀ earlier last, modes = earlier ++ [last] →
      logging.level = if last.verbose then Log.debug else Log.info := by
  intro logging modes
  have left : logging = (configured modes).logging := congrArg Session.logging (after_eq calls)
  refine ⟨?_, ?_, ?_⟩
  · intro none
    rw [left, none]
    rfl
  · intro first more asked
    have one : logging.handlers = [⟨first.format, Log.standardError⟩] := by
      rw [left, asked]
      rfl
    have level : 0 < logging.level := by
      rw [left, asked]
      exact Mode.level_pos _
    exact ⟨one, fun stamp rs below => Log.Logging.output_eq one level stamp below⟩
  · intro earlier last asked
    rw [left, asked, ← configure_configured, configure_eq]
    exact Log.Logging.level_setup _ _ _ _

/-- A call with the arguments of a line, in a process whose environment asks for nothing. -/
def plainCall (line : String) (delivery : Option Delivery) : Call :=
  { world := { tree := .folder [], draws := .cycle [], stamp := [] }
    arguments := Text.splitOn ' ' line.toList, delivery }

/-- Calls that alternate between modes, with refused ones between them. -/
theorem logging_follows_alternating :
    let calls := [plainCall "-v" (some .written), plainCall "-d . -n p --json-logs k" none,
      plainCall "-vd . -n p k" (some .unread), plainCall "-d . -n p k" (some .written),
      plainCall "-d . -n p -v k" none, plainCall "-d . -n p k k" (some .written)]
    (after calls).logging.handlers = [⟨.json, Log.standardError⟩] ∧
      (after calls).logging.level = Log.debug := by
  intro calls
  obtain ⟨-, handler, level⟩ := logging_follows calls
  have modes : calls.filterMap Call.mode? = [⟨.json, false⟩, ⟨.plain, true⟩, ⟨.plain, false⟩,
    ⟨.plain, true⟩] := by decide
  exact ⟨(handler _ _ modes).1, level [⟨.json, false⟩, ⟨.plain, true⟩, ⟨.plain, false⟩] _ modes⟩

end Session

end Command

end Phrasebook
