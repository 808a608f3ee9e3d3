import Phrasebook.Proofs.Expansion.Call

/-!
# Tracing is invisible

Tracing adds notes to the trail and does nothing else: with it and without it a call gives
the same answer and leaves the same pools, draws and memo behind, and the trails agree once
the traces are left out (`serve_tracing`).
-/

namespace Phrasebook

variable {ι lang : Type}

/-- Is the event there for tracing only? -/
def Event.isTrace : Event ι lang → Bool
  | .note n => n.isTrace
  | _ => false

@[simp] theorem Event.isTrace_note (n : Note) :
    (Event.note n : Event ι lang).isTrace = n.isTrace := rfl

@[simp] theorem Event.isTrace_lookup (key : Text) (language : lang) (chain : List Text) :
    (Event.lookup key language chain : Event ι lang).isTrace = false := rfl

@[simp] theorem Event.isTrace_roll (key : Text) (place : ι) (picked : Option Text) :
    (Event.roll key place picked : Event ι lang).isTrace = false := rfl

/-- Two runs that differ by traces only. -/
structure Run.Similar (run run' : Run ι lang) : Prop where
  pools : run.pools = run'.pools
  draws : run.draws = run'.draws
  memo : run.memo = run'.memo
  trail : run.trail.filter (fun e => !e.isTrace) = run'.trail.filter fun e => !e.isTrace

namespace Run.Similar

variable {run run' : Run ι lang}

theorem refl (run : Run ι lang) : run.Similar run := ⟨rfl, rfl, rfl, rfl⟩

/-- Saying something keeps runs similar, whoever of the two traces. -/
theorem said (h : run.Similar run') (tracing tracing' : Bool) (n : Note) :
    (Step.said tracing n run).Similar (Step.said tracing' n run') := by
  cases htrace : n.isTrace with
  | false =>
    rw [Step.said_of_not_trace tracing htrace, Step.said_of_not_trace tracing' htrace]
    exact ⟨h.pools, h.draws, h.memo, by simp [htrace, h.trail]⟩
  | true =>
    have dropped (t : Bool) (r : Run ι lang) : (Step.said t n r).Similar r := by
      unfold Step.said
      split
      · exact refl r
      · exact ⟨rfl, rfl, rfl, by simp [htrace]⟩
    obtain ⟨pools, draws, memo, trail⟩ := dropped tracing run
    obtain ⟨pools', draws', memo', trail'⟩ := dropped tracing' run'
    exact ⟨pools.trans (h.pools.trans pools'.symm), draws.trans (h.draws.trans draws'.symm),
      memo.trans (h.memo.trans memo'.symm), trail.trans (h.trail.trans trail'.symm)⟩

theorem memoize (h : run.Similar run') (key value : Text) :
    { run with memo := (key, value) :: run.memo }.Similar
      { run' with memo := (key, value) :: run'.memo } :=
  ⟨h.pools, h.draws, congrArg ((key, value) :: ·) h.memo, h.trail⟩

theorem asked (h : run.Similar run') (language : lang) (chain : List Text) (key : Text) :
    (Step.asked language chain key run).Similar (Step.asked language chain key run') :=
  ⟨h.pools, h.draws, h.memo, by simp [Step.asked, h.trail]⟩

theorem rolled [DecidableEq ι] (h : run.Similar run') (key : Text) (place : ι) :
    (Step.rolled key place run).Similar (Step.rolled key place run') := by
  refine ⟨?_, ?_, h.memo, ?_⟩ <;>
    simp [Step.rolled, h.pools, h.draws, h.trail]

/-- Similar runs have the same events of any kind that no trace belongs to. -/
theorem count_eq (h : run.Similar run') {kind : Event ι lang → Bool}
    (hkind : ∀ e : Event ι lang, e.isTrace = true → kind e = false) :
    run.count kind = run'.count kind := by
  have untraced (r : Run ι lang) :
      (r.trail.filter fun e => !e.isTrace).countP kind = r.count kind := by
    rw [List.countP_filter]
    refine List.countP_congr fun e _ => ?_
    cases trace : e.isTrace with
    | true => simp [hkind e trace]
    | false => simp
  rw [← untraced run, h.trail, untraced run']

end Run.Similar

/-- Actions that give the same from similar runs and leave them similar. -/
def Simulation.tracing (ι lang : Type) : Simulation (Step ι lang) (Step ι lang) where
  Rel x y := ∀ run run', run.Similar run' → (x run).1 = (y run').1 ∧ (x run).2.Similar (y run').2
  pure _ _ _ h := ⟨rfl, h⟩
  bind {_ _ x y f g} hx hf run run' h := by
    obtain ⟨answer, similar⟩ := hx run run' h
    rw [Step.bind_run, Step.bind_run, answer]
    exact hf _ _ _ similar

namespace Scope

variable [DecidableEq ι]

/-- The scope with tracing turned on or off. -/
def withTracing (scope : Scope ι lang) (tracing : Bool) : Scope ι lang := { scope with tracing }

theorem tracing_primitives (scope : Scope ι lang) (tracing : Bool) :
    (Simulation.tracing ι lang).Primitives scope (scope.withTracing tracing) fun _ _ => True where
  fields := rfl
  maxDepth := rfl
  stores := rfl
  say n run run' h := by
    rw [Step.say_run, Step.say_run]
    exact ⟨rfl, h.said _ _ n⟩
  memoized key run run' h := ⟨congrArg (List.lookup key) h.memo, h⟩
  memoize key value run run' h := ⟨rfl, h.memoize key value⟩
  fetch store hs store' hs' chain key _ _ _ run run' h := by
    obtain rfl : store = store' := Option.some.inj (hs.symm.trans hs')
    change (Step.fetch store scope.language chain key run).1 =
        (Step.fetch store scope.language chain key run').1 ∧
      (Step.fetch store scope.language chain key run).2.Similar
        (Step.fetch store scope.language chain key run').2
    match found : store key scope.language with
    | none =>
      rw [Step.fetch_missing found, Step.fetch_missing found]
      exact ⟨rfl, h.asked scope.language chain key⟩
    | some (.text raw) =>
      rw [Step.fetch_text found, Step.fetch_text found]
      exact ⟨rfl, h.asked scope.language chain key⟩
    | some (.pool place) =>
      have asked := h.asked scope.language chain key
      rw [Step.fetch_pool found, Step.fetch_pool found, Step.roll_run, Step.roll_run, asked.pools,
        asked.draws]
      exact ⟨rfl, asked.rolled key place⟩
  below _ _ _ _ _ _ := trivial

/-- Turning tracing on or off changes no answer, and of the run only the traces. -/
theorem serve_tracing (scope : Scope ι lang) (tracing : Bool) (call : Call) {run run' : Run ι lang}
    (h : run.Similar run') :
    (scope.serve call run).1 = ((scope.withTracing tracing).serve call run').1 ∧
      (scope.serve call run).2.Similar ((scope.withTracing tracing).serve call run').2 :=
  (scope.tracing_primitives tracing).serve call (fun _ _ => trivial) (fun _ _ => trivial) run run' h

end Scope

end Phrasebook
