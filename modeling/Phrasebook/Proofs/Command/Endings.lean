import Phrasebook.Proofs.Command.Configuration
import Phrasebook.Proofs.Command.Jobs

/-!
# How runs end

A run that gets past its arguments either has a text, and then it is a matter of the delivery how it
ends, or a fault. What is written, the status and the last words on the standard error stream go
together (`Agreement`). They do so in every session that runs can lead to, for such a session has
logging set up for errors as soon as a run gets past its arguments: whatever the earlier runs asked
for, there is one handler, and the level is not above that of errors (`Reached.sound`).
-/

namespace Phrasebook

namespace Command

/-- The end of a job if its text is given back. -/
def Done.ending (d : Done) : Ending :=
  match d.result with
  | .ok t => .text t
  | .error f => .fault f

/-- The fault that stops a run with a delivery: its own, or that the text cannot be written. -/
def Ending.fault? (delivery : Delivery) : Ending → Option Fault
  | .fault f => some f
  | .text _ =>
    match delivery with
    | .failed reason => some (.unwritable reason)
    | _ => none
  | .exit _ => none

/-- What a run says at last, of a fault or of an interruption. -/
def lastWords : Option Fault → Text
  | none => "Interrupted by user.".toList
  | some (.refused reason) => reason
  | some f => "Unexpected error: ".toList ++ f.message

/-- What is shown agrees with how a run ended, in a world and with a delivery, where log lines have
a format. -/
structure Agreement (w : World) (delivery : Delivery) (format : Log.Format) (ran : Ending)
    (shown : Shown) : Prop where
  /-- Nothing is written or the whole text, and the text only with status 0. -/
  stdout : shown.stdout = [] ∨ ran = .text shown.stdout ∧ shown.ending = .exit 0
  /-- A text that can be written is written. -/
  delivered : ∀ t, ran = .text t → delivery = .written → shown.stdout = t
  success : shown.ending = .exit 0 ↔
    (∃ t, ran = .text t) ∧ (delivery = .written ∨ delivery = .unread)
  interruption : shown.ending = .exit 130 ↔ (∃ t, ran = .text t) ∧ delivery = .interrupted
  /-- Otherwise there is a fault. For debugging it is handed on, unless it is a refusal. -/
  failure : shown.ending ≠ .exit 0 → shown.ending ≠ .exit 130 →
    ∃ f, ran.fault? delivery = some f ∧
      shown.ending = if w.env.debugging && !f.isRefusal then .fault f else .exit 1
  /-- With status 1 and 130 one error is logged, at the end, and else none. -/
  stderr : ∃ records, Log.Calm records ∧
    shown.stderr = format.lines w.stamp (records ++
      if shown.ending = .exit 1 ∨ shown.ending = .exit 130 then
        [report (lastWords (ran.fault? delivery))]
      else [])

namespace Session

variable {s : Session} {w : World} {format : Log.Format} {delivery : Delivery}

theorem logged_calm (ready : s.logging.Ready format) (w : World) {rs : List Log.Record}
    (calm : Log.Calm rs) :
    ∃ kept, Log.Calm kept ∧ s.logged w rs = format.lines w.stamp kept ∧
      ∀ m, s.logged w (rs ++ [report m]) = format.lines w.stamp (kept ++ [report m]) := by
  have below : ∀ r ∈ rs, Log.Logging.isBelowBase r.logger = true := fun r hr => (calm r hr).1
  refine ⟨rs.filter fun r => s.logging.level ≤ r.level, ?_, ?_, ?_⟩
  · intro r hr
    exact calm r (List.mem_filter.1 hr).1
  · exact ready.textOf_output w.stamp below
  · intro m
    have passes : s.logging.level ≤ (report m).level :=
      Int.le_trans ready.reached (Int.le_of_lt Log.info_lt_error)
    have all : ∀ r ∈ rs ++ [report m], Log.Logging.isBelowBase r.logger = true :=
      List.forall_mem_append.2 ⟨below, List.forall_mem_singleton.2 rfl⟩
    have last : [report m].filter (fun r => s.logging.level ≤ r.level) = [report m] :=
      List.filter_cons_of_pos (decide_eq_true passes)
    rw [logged, ready.textOf_output w.stamp all, List.filter_append, last]

/-- The end of a run that is stopped by a fault. -/
theorem agreement_of_fault {ran : Ending} {shown : Shown} {f : Fault}
    (stopped : ran.fault? delivery = some f) (silent : shown.stdout = [])
    (ending : shown.ending =
      if w.env.debugging && !f.isRefusal then .fault f else .exit 1)
    (stderr : ∃ records, Log.Calm records ∧ shown.stderr = format.lines w.stamp (records ++
      if w.env.debugging && !f.isRefusal then [] else [report (lastWords (some f))])) :
    Agreement w delivery format ran shown := by
  have notZero : shown.ending ≠ .exit 0 := by
    rw [ending]
    split <;> nofun
  have notInterrupted : shown.ending ≠ .exit 130 := by
    rw [ending]
    split <;> nofun
  constructor
  case stdout => exact .inl silent
  case delivered =>
    rintro t rfl rfl
    cases stopped
  case success =>
    constructor
    · intro zero
      exact absurd zero notZero
    · rintro ⟨⟨t, rfl⟩, rfl | rfl⟩ <;> cases stopped
  case interruption =>
    constructor
    · intro interrupted
      exact absurd interrupted notInterrupted
    · rintro ⟨⟨t, rfl⟩, rfl⟩
      cases stopped
  case failure =>
    intro _ _
    exact ⟨f, stopped, ending⟩
  case stderr =>
    obtain ⟨records, calm, stderr⟩ := stderr
    refine ⟨records, calm, ?_⟩
    rw [stderr, stopped, ending]
    split <;> rfl

/-- The end of a run whose text is written, or not read any more. -/
theorem agreement_of_text {t : Text} {shown : Shown}
    (received : delivery = .written ∨ delivery = .unread)
    (text : shown.stdout = if delivery = .written then t else [])
    (ending : shown.ending = .exit 0)
    (stderr : ∃ records, Log.Calm records ∧ shown.stderr = format.lines w.stamp records) :
    Agreement w delivery format (.text t) shown := by
  constructor
  case stdout =>
    rw [text]
    split
    · exact .inr ⟨rfl, ending⟩
    · exact .inl rfl
  case delivered =>
    rintro _ ⟨⟩ written
    rw [text, if_pos written]
  case success =>
    constructor
    · intro _
      exact ⟨⟨t, rfl⟩, received⟩
    · intro _
      exact ending
  case interruption =>
    constructor
    · intro interrupted
      rw [ending] at interrupted
      cases interrupted
    · rintro ⟨-, rfl⟩
      obtain written | unread := received
      · cases written
      · cases unread
  case failure =>
    intro notZero
    exact absurd ending notZero
  case stderr =>
    obtain ⟨records, calm, stderr⟩ := stderr
    refine ⟨records, calm, ?_⟩
    rw [stderr, ending]
    exact congrArg (format.lines w.stamp) (List.append_nil records).symm

/-- A fault that was not reported is reported, or handed on. -/
theorem unexpected_agrees (ready : s.logging.Ready format) {rs : List Log.Record}
    (calm : Log.Calm rs) {ran : Ending} {f : Fault} (stopped : ran.fault? delivery = some f)
    (unreported : f.isRefusal = false) :
    Agreement w delivery format ran (s.unexpected w rs f) := by
  obtain ⟨kept, calm, logged, reported⟩ := logged_calm ready w calm
  -- a refusal would have other last words, but it does not come here: it was reported already
  have words : lastWords (some f) = "Unexpected error: ".toList ++ f.message := by
    cases f with
    | refused reason => cases unreported
    | _ => rfl
  cases debugging : w.env.debugging with
  | true =>
    have shown : s.unexpected w rs f = { stderr := s.logged w rs, ending := .fault f } := by
      simp only [unexpected, debugging, if_true]
    rw [shown]
    apply agreement_of_fault stopped
    case silent => rfl
    case ending => simp [debugging, unreported]
    case stderr => exact ⟨kept, calm, by simp [debugging, unreported, logged]⟩
  | false =>
    apply agreement_of_fault stopped
    case silent => simp [unexpected, debugging]
    case ending => simp [unexpected, debugging]
    case stderr => exact ⟨kept, calm, by simp [unexpected, debugging, reported, words]⟩

theorem deliver_agrees (ready : s.logging.Ready format) {rs : List Log.Record}
    (calm : Log.Calm rs) (t : Text) :
    Agreement w delivery format (.text t) (s.deliver w rs t delivery) := by
  obtain ⟨kept, keptCalm, logged, reported⟩ := logged_calm ready w calm
  cases delivery with
  | failed reason => exact unexpected_agrees ready calm rfl rfl
  | written => exact agreement_of_text (.inl rfl) rfl rfl ⟨kept, keptCalm, logged⟩
  | unread => exact agreement_of_text (.inr rfl) rfl rfl ⟨kept, keptCalm, logged⟩
  | interrupted =>
    constructor
    case stdout => exact .inl rfl
    case delivered => exact nofun
    case success =>
      constructor
      · exact nofun
      · rintro ⟨-, unbroken | unbroken⟩ <;> cases unbroken
    case interruption => exact ⟨fun _ => ⟨⟨t, rfl⟩, rfl⟩, fun _ => rfl⟩
    case failure =>
      intro _ notInterrupted
      exact absurd rfl notInterrupted
    case stderr =>
      have status : (s.deliver w rs t .interrupted).ending = .exit 130 := rfl
      refine ⟨kept, keptCalm, ?_⟩
      rw [if_pos (.inr status)]
      exact reported _

theorem finish_agrees (ready : s.logging.Ready format) {d : Done} (reports : d.Reports) :
    Agreement w delivery format d.ending (s.finish w delivery d) := by
  obtain ⟨rs, calm, records⟩ := reports
  obtain ⟨recorded, result⟩ := d
  cases result with
  | ok t =>
    obtain rfl : recorded = rs := records.trans (List.append_nil rs)
    exact deliver_agrees ready calm t
  | error f =>
    cases f with
    | refused reason =>
      obtain rfl : recorded = rs ++ [report reason] := records
      obtain ⟨kept, calm, -, reported⟩ := logged_calm ready w calm
      apply agreement_of_fault (f := .refused reason) rfl
      case silent => rfl
      case ending => simp [finish, Fault.isRefusal]
      case stderr =>
        refine ⟨kept, calm, ?_⟩
        rw [show (Fault.refused reason).isRefusal = true from rfl, Bool.not_true, Bool.and_false]
        exact reported reason
    | _ =>
      obtain rfl : recorded = rs := records.trans (List.append_nil rs)
      exact unexpected_agrees ready calm rfl rfl

/-! ## The sessions that runs lead to -/

/-- A session in which runs were made: called, or as programs of their own. -/
inductive Reached : Session → Prop
  | start : Reached {}
  | call {s : Session} (c : Call) : Reached s → Reached (c.perform s).2
  | alone {s : Session} (w : World) (delivery : Delivery) (arguments : List Text) :
    Reached s → Reached (s.mainAlone w delivery arguments).2

/-- Logging is as at the start, and no mode is remembered; or it was set up. -/
def Sound (s : Session) : Prop := s = {} ∨ ∃ format, s.logging.Ready format

theorem Sound.forget (sound : s.Sound) : Sound { s with mode := none } := by
  obtain rfl | ready := sound
  · exact .inl rfl
  · exact .inr ready

/-- Whatever is remembered, logging is set up for a run that gets past its arguments. -/
theorem Sound.configure (sound : s.Sound) (m : Mode) :
    ∃ format, (s.configure m).logging.Ready format := by
  obtain rfl | ⟨format, ready⟩ := sound
  · exact ⟨m.format, Log.Logging.ready_setup m.format m.level_pos m.level_le⟩
  · refine ⟨format, ?_⟩
    unfold Session.configure
    -- where the mode is the remembered one, the run that asked for it before has set logging up
    split
    · exact ready
    · exact ready.setup m.format m.level_pos m.level_le

theorem Sound.perform (sound : s.Sound) (c : Call) : (c.perform s).2.Sound := by
  rw [Call.perform_session]
  cases c.mode? with
  | none => exact sound
  | some m => exact .inr (sound.configure m)

theorem Sound.mainAlone (sound : s.Sound) (w : World) (delivery : Delivery)
    (arguments : List Text) : (s.mainAlone w delivery arguments).2.Sound := by
  have left := Call.perform_session ⟨w, arguments, some delivery⟩ { s with mode := none }
  have alone : (s.mainAlone w delivery arguments).2 =
      { (Call.perform ⟨w, arguments, some delivery⟩ { s with mode := none }).2 with
        mode := s.mode } := rfl
  rw [alone, left]
  cases Call.mode? ⟨w, arguments, some delivery⟩ with
  | none => exact sound
  | some m => exact .inr (sound.forget.configure m)

theorem Reached.sound (reached : s.Reached) : s.Sound := by
  induction reached with
  | start => exact .inl rfl
  | call c _ sound => exact sound.perform c
  | alone w delivery arguments _ sound => exact sound.mainAlone w delivery arguments

section Past

variable {arguments : List Text} {settings : Settings}

theorem run_ending (past : Request.read arguments = .ok (.run settings)) (w : World)
    (s : Session) :
    (s.run w arguments).1.ending =
      (settings.perform w.tree { tracing := w.env.tracing } w.draws).ending := by
  simp only [run, past, Session.perform]
  rfl

theorem main_eq (past : Request.read arguments = .ok (.run settings)) (w : World)
    (delivery : Delivery) (s : Session) :
    s.main w delivery arguments =
      ((s.configure (settings.mode w.env)).finish w delivery
        (settings.perform w.tree { tracing := w.env.tracing } w.draws),
       s.configure (settings.mode w.env)) := by
  simp only [main, past, Session.perform]

/-- **Status, output and log agree.** In every session that runs lead to, a run that gets past its
arguments writes nothing or the whole text, and the text with status 0; the status is 0 exactly if
there is a text that was written or that nobody reads, 130 exactly if writing it was interrupted,
and otherwise 1, or for debugging the fault is handed on, unless it is a refusal. With status 1 and
130 an error is logged at the end in the format of the handler, and no other; with status 0 none. -/
theorem main_agrees (reached : s.Reached) (w : World) (delivery : Delivery)
    (past : Request.read arguments = .ok (.run settings)) {made : Shown × Session}
    (way : made = s.main w delivery arguments ∨ made = s.mainAlone w delivery arguments) :
    ∃ format, made.2.logging.handlers = [⟨format, Log.standardError⟩] ∧
      Agreement w delivery format (s.run w arguments).1.ending made.1 := by
  rw [run_ending past]
  have reports := settings.perform_reports w.tree { tracing := w.env.tracing } w.draws
  obtain rfl | rfl := way
  · obtain ⟨format, ready⟩ := reached.sound.configure (settings.mode w.env)
    rw [main_eq past]
    exact ⟨format, ready.handlers, finish_agrees ready reports⟩
  · -- a program of its own knows of no mode, but it finds the same logging
    obtain ⟨format, ready⟩ := reached.sound.forget.configure (settings.mode w.env)
    rw [mainAlone, main_eq past]
    exact ⟨format, ready.handlers, finish_agrees ready reports⟩

end Past

/-- A key that is not there, after a run that asked for log lines in the interchange notation. -/
theorem main_agrees_missing :
    let earlier := plainCall "-d . -n p --json-logs k" none
    let s := (earlier.perform {}).2
    let arguments := Text.splitOn ' ' "-d . -n p k".toList
    let shown := (s.main earlier.world .written arguments).1
    shown.ending = .exit 1 ∧ ∃ records, Log.Calm records ∧
      shown.stderr = Log.Format.json.lines []
        (records ++ [report "no entry for key 'k' (en)".toList]) := by
  intro earlier s arguments shown
  have past : Request.read arguments =
      .ok (.run { directory := .text ['.'], name := .text ['p'], key := some ['k'] }) := rfl
  have ran : (s.run earlier.world arguments).1.ending =
      .fault (.refused "no entry for key 'k' (en)".toList) := by decide +kernel
  obtain ⟨format, handlers, agreement⟩ :=
    main_agrees (.call earlier .start) earlier.world .written past (.inl rfl)
  obtain rfl : Log.Format.json = format := by
    cases handlers
    rfl
  rw [ran] at agreement
  have notZero : shown.ending ≠ .exit 0 := by
    intro zero
    obtain ⟨⟨t, given⟩, -⟩ := agreement.success.1 zero
    cases given
  have notInterrupted : shown.ending ≠ .exit 130 := by
    intro interrupted
    cases (agreement.interruption.1 interrupted).2
  obtain ⟨f, stopped, ending⟩ := agreement.failure notZero notInterrupted
  obtain rfl := Option.some.inj stopped
  obtain ⟨records, calm, stderr⟩ := agreement.stderr
  rw [if_pos (.inl ending)] at stderr
  exact ⟨ending, records, calm, stderr⟩

end Session

end Command

end Phrasebook
