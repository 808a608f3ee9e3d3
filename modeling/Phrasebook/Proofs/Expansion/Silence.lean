import Phrasebook.Proofs.Expansion.Boundary
import Phrasebook.Proofs.Expansion.Snapshot

/-!
# Tracing shows nothing but itself

Traces are put on the trail in every part of the recursion: by conditions, by stored keys, by keys
that stand for nothing. A call that does not trace makes none of them, and what it does otherwise is
what the same call does while it traces. So its trail is the trail of the tracing call without the
traces (`serve_silent`), and its records are those of the tracing call but for the ones at the level
of debugging, in the same order (`tracing_hides`).
-/

namespace Phrasebook

variable {ι lang : Type}

/-- The run with the traces left out of its trail. -/
def Run.silenced (run : Run ι lang) : Run ι lang := { run with trail := untraced run.trail }

/-- Of two runs that differ by traces only, one without traces is the other one silenced. -/
theorem Run.Similar.eq_silenced {loud silent : Run ι lang} (same : loud.Similar silent)
    (own : ∀ e ∈ silent.trail, e.isTrace = false) : silent = loud.silenced := by
  have still : untraced silent.trail = silent.trail :=
    List.filter_eq_self.2 fun e he => by rw [own e he]; rfl
  have trail : untraced loud.trail = silent.trail := same.trail.trans still
  unfold Run.silenced
  rw [trail, same.pools, same.draws, same.memo]

namespace Scope

variable [DecidableEq ι]

/-- A scope that does not trace puts no traces on the trail. -/
theorem silent_primitives (scope : Scope ι lang) (silent : scope.tracing = false) :
    (adding fun e : Event ι lang => e.isTrace = false).Primitives scope scope fun _ _ => True where
  fields := rfl
  maxDepth := rfl
  stores := rfl
  say n := by
    cases trace : n.isTrace with
    | false => exact adding_say trace scope.tracing
    | true =>
      intro run
      have unsaid : Step.said scope.tracing n run = run := by simp [Step.said, trace, silent]
      rw [Step.say_run, unsaid]
      exact ⟨[], rfl, List.forall_mem_nil _⟩
  memoized key run := ⟨[], rfl, List.forall_mem_nil _⟩
  memoize key value run := ⟨[], rfl, List.forall_mem_nil _⟩
  fetch store _ store' _ chain key _ _ _ run := by
    obtain ⟨rolls, trail, hrolls⟩ := fetch_trail store scope.language chain key run
    refine ⟨rolls ++ [.lookup key scope.language chain], by simp [trail], ?_⟩
    refine List.forall_mem_append.2 ⟨fun e he => ?_, List.forall_mem_singleton.2 rfl⟩
    obtain ⟨place, picked, rfl⟩ := hrolls e he
    rfl
  below _ _ _ _ _ _ := trivial

/-- A call that does not trace gives the answer of the call that does, and leaves its run without
the traces. -/
theorem serve_silent (scope : Scope ι lang) (call : Call) (pools : ι → Pool) (draws : Draws) :
    let loud := (scope.withTracing true).serve call { pools, draws }
    (scope.withTracing false).serve call { pools, draws } = (loud.1, loud.2.silenced) := by
  intro loud
  let quiet := scope.withTracing false
  obtain ⟨answer, same⟩ :
      loud.1 = (quiet.serve call _).1 ∧ loud.2.Similar (quiet.serve call { pools, draws }).2 :=
    (scope.withTracing true).serve_tracing false call (.refl { pools, draws })
  obtain ⟨more, trail, own⟩ := (quiet.silent_primitives rfl).serve call
    (fun _ _ => trivial) (fun _ _ => trivial) { pools, draws }
  rw [List.append_nil] at trail
  exact Prod.ext answer.symm (same.eq_silenced (trail ▸ own))

end Scope

namespace Outcome

variable {σ α : Type}

/-- The first outcome is the second but for the traces. It has the same value, the same lookups and
rolls in the same order, and leaves the same shelf and draws behind. What is missing from its trail
are the traces, and what is missing from its records is what was said for debugging. -/
structure Hides (silent loud : Outcome σ ι lang α) : Prop where
  value : silent.value = loud.value
  shelf : silent.shelf = loud.shelf
  draws : silent.draws = loud.draws
  trail : silent.trail = untraced loud.trail
  lookups : silent.lookups = loud.lookups
  rolls : silent.trail.filter Event.isRoll = loud.trail.filter Event.isRoll
  records : ∀ logger, silent.records logger =
    (loud.records logger).filter fun r => r.level != Log.debug

theorem lookups_untraced (trail : List (Event ι lang)) :
    (untraced trail).filterMap Event.lookup? = trail.filterMap Event.lookup? := by
  rw [untraced, List.filterMap_filter]
  refine List.filterMap_congr fun e _ => ?_
  cases e with
  | note n => exact ite_self none
  | lookup key language chain => rfl
  | roll key place picked => rfl

theorem rolls_untraced (trail : List (Event ι lang)) :
    (untraced trail).filter Event.isRoll = trail.filter Event.isRoll := by
  rw [untraced, List.filter_filter]
  refine List.filter_congr fun e _ => ?_
  cases e with
  | note n => exact Bool.false_and _
  | lookup key language chain => rfl
  | roll key place picked => rfl

/-- Traces, and nothing else that is said, are records at the level of debugging. -/
theorem records_untraced (trail : List (Event ι lang)) (logger : Text) :
    (untraced trail).filterMap (fun e => e.note?.map fun n => n.record logger) =
      (trail.filterMap fun e => e.note?.map fun n => n.record logger).filter
        fun r => r.level != Log.debug := by
  rw [untraced, List.filterMap_filter, List.filter_filterMap]
  refine List.filterMap_congr fun e _ => ?_
  cases e with
  | note n => cases n <;> rfl
  | lookup key language chain => rfl
  | roll key place picked => rfl

end Outcome

namespace Resolver

variable {σ α : Type}

/-- An action that leaves the run of another one without the traces has the same outcome but for
the traces. -/
theorem perform_hides {kind : Shelf σ ι lang} {shelf : Option σ} {draws : Draws}
    {silent loud : Step ι lang α}
    (h : silent (start kind shelf draws) =
      ((loud (start kind shelf draws)).1, (loud (start kind shelf draws)).2.silenced)) :
    (perform kind shelf draws silent).Hides (perform kind shelf draws loud) := by
  have trail : (untraced (loud (start kind shelf draws)).2.trail).reverse =
      untraced (loud (start kind shelf draws)).2.trail.reverse := List.filter_reverse.symm
  have outcome : perform kind shelf draws loud = _ := perform_of_run rfl
  rw [perform_of_run h, outcome]
  exact ⟨rfl, rfl, rfl, trail, trail ▸ Outcome.lookups_untraced _,
    trail ▸ Outcome.rolls_untraced _, fun logger => trail ▸ Outcome.records_untraced _ logger⟩

variable [DecidableEq ι]

/-- **Tracing hides nothing and adds nothing but its own records.** A template, a key or a condition
is called for with tracing and without it, whatever the store, the depth limit, the language and the
fields are. The call without tracing gives the same value, looks up and rolls the same in the same
order, and leaves the same pools and draws behind. Its records are those of the other call without
the ones at the level of debugging, in the same order. -/
theorem tracing_hides (r : Resolver) (kind : Shelf σ ι lang) (shelf : Option σ) (draws : Draws)
    (language : lang) (fields : List (Option Field)) :
    let loud : Resolver := { r with tracing := true }
    let silent : Resolver := { r with tracing := false }
    (∀ template, (silent.expand kind shelf draws language fields template).Hides
      (loud.expand kind shelf draws language fields template)) ∧
    (∀ key, (silent.expandKey kind shelf draws language fields key).Hides
      (loud.expandKey kind shelf draws language fields key)) ∧
    ∀ expression, (silent.evaluate kind shelf draws language fields expression).Hides
      (loud.evaluate kind shelf draws language fields expression) := by
  intro loud silent
  have served (call : Call) := (r.scope kind shelf language fields).serve_silent call
    (start kind shelf draws).pools draws
  refine ⟨fun template => perform_hides ?_, fun key => perform_hides ?_,
    fun expression => perform_hides ?_⟩
  · obtain ⟨answer, left⟩ := Prod.ext_iff.1 (served (.expand template))
    exact Prod.ext (Answer.text.inj answer) left
  · obtain ⟨answer, left⟩ := Prod.ext_iff.1 (served (.expandKey key))
    exact Prod.ext (Answer.stored.inj answer) left
  · obtain ⟨answer, left⟩ := Prod.ext_iff.1 (served (.judge expression))
    exact Prod.ext (Answer.verdict.inj answer) left

end Resolver

end Phrasebook
