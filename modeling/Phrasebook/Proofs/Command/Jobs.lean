import Phrasebook.Command.Job
import Phrasebook.Proofs.Package.Reports

/-!
# What a job leaves behind

A job comes to one of three ends: its package cannot be put together, its line cannot be written, or
there is a text. Whichever it is, what was recorded up to there is calm; the reason of a refusal is
recorded behind it, as the only error, and a fault that is no refusal is left to be reported
(`Settings.perform_reports`).
-/

namespace Phrasebook

open Log (Mild)

namespace Command

/-- Is the fault a refusal, whose reason was logged? -/
def Fault.isRefusal : Fault → Bool
  | .refused _ => true
  | _ => false

/-- The records of an attempt are mild, and its fault, if it has one, is not among them. -/
def Unreported {α : Type} (logger : Text) (a : Attempt Fault α) : Prop :=
  Mild logger a.records ∧ ∀ f, a.result = .error f → f.isRefusal = false

section Packages

variable {tree : Tree} {logger : Text}

theorem withName_unreported (p : Package) (name : Given) {act : Text → Merged Package}
    (acts : ∀ n, Mild logger (act n).records) :
    Unreported logger (withName tree logger p name act) := by
  cases name with
  | text n =>
    refine ⟨acts n, fun f failed => ?_⟩
    simp only [withName] at failed
    cases found : (act n).fault with
    | none =>
      rw [found] at failed
      cases failed
    | some g =>
      rw [found] at failed
      cases failed
      rfl
  | nothing =>
    refine ⟨Package.folder_mild p, fun f failed => ?_⟩
    simp only [withName] at failed
    split at failed
    · cases failed
      rfl
    · cases failed
    · cases failed
      rfl

theorem appendAll_unreported (names : List Given) (p : Package) :
    Unreported logger (appendAll tree logger names p) := by
  induction names generalizing p with
  | nil => exact ⟨.nil, nofun⟩
  | cons name names ih =>
    have appended : Unreported logger (withName tree logger p name (p.append tree logger)) :=
      withName_unreported p name fun n => Package.append_mild p n
    unfold appendAll
    dsimp only
    split
    · exact appended
    · next q _ => exact ⟨appended.1.append (ih q).1, (ih q).2⟩

end Packages

/-- The reason of a refusal, as it is logged. -/
def Done.refusal (d : Done) : List Log.Record :=
  match d.result with
  | .error (.refused reason) => [report reason]
  | _ => []

/-- All that was recorded is calm, but for the reason of a refusal at the end. -/
def Done.Reports (d : Done) : Prop := ∃ rs, Log.Calm rs ∧ d.records = rs ++ d.refusal

namespace Job

variable {tree : Tree} {r : Resolver} {draws : Draws} {t : Text} {j : Job} {p : Package}

theorem package_unreported (tree : Tree) (j : Job) :
    Unreported (Log.loggerName "package".toList) (j.package tree) := by
  unfold package
  cases j.directory with
  | nothing =>
    refine ⟨.nil, fun f failed => ?_⟩
    cases failed
    rfl
  | text directory =>
    dsimp only
    generalize Log.loggerName "package".toList = logger
    generalize Package.new directory j.name.getText j.fallback = p
    have loaded : Unreported logger (withName tree logger p j.name fun _ => p.load tree logger) :=
      withName_unreported p j.name fun _ => Package.load_mild p
    split
    · exact loaded
    · next q _ =>
      have appended : Unreported logger (appendAll tree logger j.append q) :=
        appendAll_unreported j.append q
      exact ⟨loaded.1.append appended.1, appended.2⟩

/-- The records of a job whose package was loaded, but for a reason to refuse it. -/
def trail (tree : Tree) (r : Resolver) (draws : Draws) (j : Job) (p : Package) : List Log.Record :=
  (j.package tree).records ++ (j.line r p draws).records (Log.loggerName "resolver".toList)

theorem perform_unloaded {f : Fault} (h : (j.package tree).result = .error f) :
    j.perform tree r draws = ⟨(j.package tree).records, .error f⟩ := by
  simp only [perform, h]

theorem perform_written (loaded : (j.package tree).result = .ok p)
    (written : j.write (j.line r p draws).value = .ok t) :
    j.perform tree r draws = ⟨j.trail tree r draws p, .ok t⟩ := by
  simp only [perform, loaded, written, trail]

theorem perform_refused {reason : Text} (loaded : (j.package tree).result = .ok p)
    (refused : j.write (j.line r p draws).value = .error reason) :
    j.perform tree r draws =
      ⟨j.trail tree r draws p ++ [report reason], .error (.refused reason)⟩ := by
  simp only [perform, loaded, refused, trail]
  rfl

theorem package_calm (tree : Tree) (j : Job) : Log.Calm (j.package tree).records :=
  (package_unreported tree j).1.calm (by decide)

theorem trail_calm (tree : Tree) (r : Resolver) (draws : Draws) (j : Job) (p : Package) :
    Log.Calm (j.trail tree r draws p) :=
  (package_calm tree j).append ((Outcome.records_mild _ _).calm (by decide))

theorem perform_reports (tree : Tree) (r : Resolver) (draws : Draws) (j : Job) :
    (j.perform tree r draws).Reports := by
  cases loaded : (j.package tree).result with
  | error f =>
    refine ⟨(j.package tree).records, package_calm tree j, ?_⟩
    rw [perform_unloaded loaded]
    have unreported : f.isRefusal = false := (package_unreported tree j).2 f loaded
    cases f with
    | refused reason => cases unreported
    | _ => exact (List.append_nil _).symm
  | ok p =>
    refine ⟨j.trail tree r draws p, trail_calm tree r draws j p, ?_⟩
    cases outcome : j.write (j.line r p draws).value with
    | error reason =>
      rw [perform_refused loaded outcome]
      rfl
    | ok text =>
      rw [perform_written loaded outcome]
      exact (List.append_nil _).symm

end Job

theorem Settings.perform_reports (tree : Tree) (r : Resolver) (draws : Draws) (s : Settings) :
    (s.perform tree r draws).Reports := by
  unfold perform
  cases s.job with
  | error reason => exact ⟨[], List.forall_mem_nil _, rfl⟩
  | ok j => exact j.perform_reports tree r draws

end Command

end Phrasebook
