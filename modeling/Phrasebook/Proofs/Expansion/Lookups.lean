import Phrasebook.Proofs.Expansion.Call

/-!
# What a call sees of its store

A call knows of its store no more than the answers to its own lookups. So if another store holds the
same for every key that a call looks up, the call goes the same on it: the same answer, the same
events in the same order, the same pools and draws (`serve_withStore`).
-/

namespace Phrasebook

variable {ι lang : Type}

/-- Two stores hold the same for the key that is looked up, if one is. -/
def Event.SameFor (store store' : Store ι lang) (language : lang) (e : Event ι lang) : Prop :=
  ∀ key asked, e.lookup? = some (key, asked) → store key language = store' key language

/-- The second action goes like the first, as long as all that happens in that has a property. -/
def Simulation.granting (Q : Event ι lang → Prop) : Simulation (Step ι lang) (Step ι lang) where
  Rel x y := ∀ run, run.trail <:+ (x run).2.trail ∧ ((∀ e ∈ (x run).2.trail, Q e) → y run = x run)
  pure _ _ := ⟨List.suffix_refl _, fun _ => rfl⟩
  bind {_ _ x y f g} hx hf run := by
    obtain ⟨longer, same⟩ := hx run
    obtain ⟨longer', same'⟩ := hf (x run).1 (x run).2
    refine ⟨longer.trans longer', fun granted => ?_⟩
    rw [Step.bind_run, Step.bind_run, same fun e he => granted e (longer'.subset he)]
    exact same' granted

namespace Scope

variable [DecidableEq ι] {store store' : Store ι lang}

/-- The scope with another store. -/
def withStore (scope : Scope ι lang) (store : Store ι lang) : Scope ι lang :=
  { scope with store := some store }

theorem granting_primitives {scope : Scope ι lang} (hs : scope.store = some store) :
    (Simulation.granting (Event.SameFor store store' scope.language)).Primitives scope
      (scope.withStore store') fun _ _ => True where
  fields := rfl
  maxDepth := rfl
  stores := by rw [hs]; rfl
  say n run := by
    rw [Step.say_run]
    exact ⟨Step.trail_suffix_said scope.tracing n run, fun _ => Step.say_run scope.tracing n run⟩
  memoized key run := ⟨List.suffix_refl _, fun _ => rfl⟩
  memoize key value run := ⟨List.suffix_refl _, fun _ => rfl⟩
  fetch held hheld other hother chain key _ _ _ run := by
    obtain rfl : store = held := Option.some.inj (hs.symm.trans hheld)
    obtain rfl : store' = other := Option.some.inj hother
    refine ⟨trail_suffix_fetch store scope.language chain key run, fun granted => ?_⟩
    obtain ⟨rolls, trail, -⟩ := fetch_trail store scope.language chain key run
    have asked : Event.lookup key scope.language chain ∈
        (Step.fetch store scope.language chain key run).2.trail := by
      rw [trail]
      simp
    have same : store key scope.language = store' key scope.language := granted _ asked key _ rfl
    simp only [Step.fetch, withStore, same]
  below _ _ _ _ _ _ := trivial

section Calls

variable (scope : Scope ι lang) {run : Run ι lang} (hs : scope.store = some store)
include hs

/-- A call goes the same on a store that holds the same for every key that it looks up. -/
theorem serve_withStore (call : Call)
    (same : ∀ e ∈ (scope.serve call run).2.trail, e.SameFor store store' scope.language) :
    (scope.withStore store').serve call run = scope.serve call run :=
  ((granting_primitives hs).serve call (fun _ _ => trivial) (fun _ _ => trivial) run).2 same

theorem expand_withStore (template : Text)
    (same : ∀ e ∈ (scope.expand template run).2.trail, e.SameFor store store' scope.language) :
    (scope.withStore store').expand template run = scope.expand template run := by
  obtain ⟨answer, left⟩ := Prod.ext_iff.1 (scope.serve_withStore hs (.expand template) same)
  exact Prod.ext (Answer.text.inj answer) left

theorem expandKey_withStore (key : Text)
    (same : ∀ e ∈ (scope.expandKey key run).2.trail, e.SameFor store store' scope.language) :
    (scope.withStore store').expandKey key run = scope.expandKey key run := by
  obtain ⟨answer, left⟩ := Prod.ext_iff.1 (scope.serve_withStore hs (.expandKey key) same)
  exact Prod.ext (Answer.stored.inj answer) left

end Calls

end Scope

end Phrasebook
