import Mathlib.Data.List.Forall2
import Phrasebook.Log.Logging

/-!
# What logging writes

Once the base logger was set up it has one handler and a level, and then what is written is plain to
see: each record of the library that reaches the level is one line, in its turn
(`Logging.output_eq`). Setting it up again changes neither the handler nor that errors reach the
level (`Logging.Ready`).

Records none of which is an error are mild if one logger was given all of them, and calm if they
were given to loggers of the library.
-/

namespace Phrasebook

namespace Log

/-! ## Mild and calm records -/

theorem debug_lt_error : debug < error := by decide

theorem info_lt_error : info < error := by decide

theorem warning_lt_error : warning < error := by decide

/-- Records of one logger, none of them an error. -/
def Mild (logger : Text) (rs : List Record) : Prop :=
  ∀ r ∈ rs, r.logger = logger ∧ r.level < error

namespace Mild

variable {logger : Text} {rs rs' : List Record}

theorem nil : Mild logger [] := List.forall_mem_nil _

theorem append (h : Mild logger rs) (h' : Mild logger rs') : Mild logger (rs ++ rs') :=
  List.forall_mem_append.2 ⟨h, h'⟩

theorem cons {r : Record} (hr : r.logger = logger ∧ r.level < error) (h : Mild logger rs) :
    Mild logger (r :: rs) :=
  List.forall_mem_cons.2 ⟨hr, h⟩

theorem one {r : Record} (hr : r.logger = logger ∧ r.level < error) : Mild logger [r] := nil.cons hr

end Mild

/-- Records of the library, none of them an error. -/
def Calm (rs : List Record) : Prop :=
  ∀ r ∈ rs, Logging.isBelowBase r.logger = true ∧ r.level < error

theorem Mild.calm {logger : Text} {rs : List Record} (h : Mild logger rs)
    (below : Logging.isBelowBase logger = true) : Calm rs := by
  intro r hr
  obtain ⟨rfl, level⟩ := h r hr
  exact ⟨below, level⟩

theorem Calm.append {rs rs' : List Record} (h : Calm rs) (h' : Calm rs') : Calm (rs ++ rs') :=
  List.forall_mem_append.2 ⟨h, h'⟩

/-! ## Output -/

/-- Some records on lines of their own. -/
def Format.lines (format : Format) (stamp : Text) (rs : List Record) : Text :=
  rs.flatMap fun r => format.line stamp r ++ ['\n']

namespace Logging

variable {l : Logging} {format : Format}

theorem level_setup (format : Format) (level : Level) (stream : Text) (l : Logging) :
    (l.setup format level stream).level = level := by
  unfold setup
  split <;> rfl

/-- With one handler and a level that is set, each record of the library that reaches the level is
written once, in its turn, and no other is written. -/
theorem output_eq {h : Handler} (one : l.handlers = [h]) (level : 0 < l.level) (stamp : Text)
    {rs : List Record} (below : ∀ r ∈ rs, isBelowBase r.logger = true) :
    l.output stamp rs =
      (rs.filter fun r => l.level ≤ r.level).map fun r =>
        (h.stream, h.format.line stamp r ++ ['\n']) := by
  have set : (l.level != 0) = true := bne_iff_ne.2 (Int.ne_of_gt level)
  have passes : ∀ r ∈ rs, l.passes r = decide (l.level ≤ r.level) := by
    intro r hr
    simp only [passes, threshold, below r hr, set, Bool.and_self, if_true]
    by_cases reached : l.level ≤ r.level
    · have positive : 0 < r.level := Int.lt_of_lt_of_le level reached
      simp [reached, positive]
    · simp [reached]
  have written : ∀ r ∈ rs.filter fun r => l.level ≤ r.level,
      l.written stamp r = [(h.stream, h.format.line stamp r ++ ['\n'])] := by
    intro r hr
    simp [written, below r (List.mem_filter.1 hr).1, one]
  rw [output, List.filter_congr passes, List.flatMap_congr written, List.map_eq_flatMap]

/-- Logging was set up: one handler writes to the standard error stream, and errors reach the
level. -/
structure Ready (l : Logging) (format : Format) : Prop where
  handlers : l.handlers = [⟨format, standardError⟩]
  positive : 0 < l.level
  reached : l.level ≤ info

theorem Ready.setup (ready : l.Ready format) (other : Format) {level : Level}
    (positive : 0 < level) (reached : level ≤ info) :
    (l.setup other level standardError).Ready format := by
  have kept : l.setup other level standardError = { l with level } := by
    simp [Logging.setup, ready.handlers]
  rw [kept]
  exact ⟨ready.handlers, positive, reached⟩

theorem ready_setup (format : Format) {level : Level} (positive : 0 < level)
    (reached : level ≤ info) : (setup format level standardError {}).Ready format :=
  ⟨rfl, positive, reached⟩

theorem Ready.textOf_output (ready : l.Ready format) (stamp : Text) {rs : List Record}
    (below : ∀ r ∈ rs, isBelowBase r.logger = true) :
    textOf standardError (l.output stamp rs) =
      format.lines stamp (rs.filter fun r => l.level ≤ r.level) := by
  rw [output_eq ready.handlers ready.positive stamp below, textOf, List.filter_map,
    List.flatMap_map]
  congr 1
  exact List.filter_eq_self.2 fun r _ => beq_self_eq_true standardError

end Logging

end Log

end Phrasebook
