import Phrasebook.Proofs.Expansion.Call
import Phrasebook.Proofs.Pool.Roll

/-!
# Calls only turn pools

A roll moves the cursor of a pool whose candidates rotate, and the position of the source that it
draws from. `Pool.rewound` and `Draws.rewound` put these back to the start and leave all else as it
is, so what has the same rewound form differs by such moves only. Whatever a call does with a run,
every pool and the source keep their rewound forms, and cursors stay in range (`serve_onward`).
-/

namespace Phrasebook

/-- The source at the start of its script. -/
def Draws.rewound (d : Draws) : Draws := { d with taken := 0 }

namespace Pool

/-- The pool with its own source at the start and, if it has candidates that rotate, its cursor at
zero. -/
def rewound (p : Pool) : Pool :=
  { p with
    cursor := if p.policy = .random ∨ p.candidates = [] then p.cursor else 0
    source := p.source.map Draws.rewound }

/-- Pools with one rewound form differ by the cursors of candidates that rotate, at most. -/
theorem eq_of_rewound_eq {p q : Pool} (same : q.rewound = p.rewound) :
    q.policy = p.policy ∧ q.candidates = p.candidates ∧
      (p.policy = .random ∨ p.candidates = [] → q.cursor = p.cursor) := by
  have policy : q.rewound.policy = p.rewound.policy := congrArg Pool.policy same
  have candidates : q.rewound.candidates = p.rewound.candidates := congrArg Pool.candidates same
  refine ⟨policy, candidates, fun still => ?_⟩
  have cursor : q.rewound.cursor = p.rewound.cursor := congrArg Pool.cursor same
  simp only [rewound] at policy candidates cursor
  simpa only [policy, candidates, still, if_true] using cursor

/-- The choice of a candidate takes draws from one source at most. -/
theorem rewound_choose (p : Pool) (shared : Draws) :
    (p.choose shared).2.1.map Draws.rewound = p.source.map Draws.rewound ∧
      (p.choose shared).2.2.rewound = shared.rewound := by
  unfold choose
  split
  · next own _ source => exact ⟨by rw [source]; rfl, rfl⟩
  · next source => exact ⟨by rw [source], rfl⟩
  · exact ⟨rfl, rfl⟩

theorem rewound_roll (p : Pool) (shared : Draws) :
    (p.roll shared).2.1.rewound = p.rewound ∧ (p.roll shared).2.2.rewound = shared.rewound := by
  by_cases none : p.candidates = []
  · rw [roll_empty none]
    exact ⟨rfl, rfl⟩
  · obtain ⟨own, other⟩ := p.rewound_choose shared
    rw [roll_nonempty none]
    refine ⟨?_, other⟩
    cases policy : p.policy <;> simp [rewound, policy, none, own, advance]

end Pool

variable {ι lang : Type}

/-- A later run. Pools and draws differ by positions only, and cursors are in range where they
were. -/
structure Run.Onward (run after : Run ι lang) : Prop where
  pools : ∀ place, (after.pools place).rewound = (run.pools place).rewound
  inRange : ∀ place, (run.pools place).InRange → (after.pools place).InRange
  draws : after.draws.rewound = run.draws.rewound

namespace Run.Onward

variable {run mid after : Run ι lang}

theorem of_eq (pools : after.pools = run.pools) (draws : after.draws = run.draws) :
    run.Onward after :=
  ⟨fun _ => by rw [pools], fun _ h => pools ▸ h, by rw [draws]⟩

theorem refl (run : Run ι lang) : run.Onward run := of_eq rfl rfl

theorem trans (first : run.Onward mid) (second : mid.Onward after) : run.Onward after where
  pools place := (second.pools place).trans (first.pools place)
  inRange place h := second.inRange place (first.inRange place h)
  draws := second.draws.trans first.draws

theorem said (tracing : Bool) (n : Note) (run : Run ι lang) :
    run.Onward (Step.said tracing n run) := by
  unfold Step.said
  split
  · exact refl run
  · exact of_eq rfl rfl

theorem rolled [DecidableEq ι] (key : Text) (place : ι) (run : Run ι lang) :
    run.Onward (Step.rolled key place run) := by
  obtain ⟨turned, drawn⟩ := (run.pools place).rewound_roll run.draws
  refine ⟨fun other => ?_, fun other h => ?_, drawn⟩
  · by_cases same : other = place
    · subst same
      simpa [Step.rolled] using turned
    · simp [Step.rolled, same]
  · by_cases same : other = place
    · subst same
      simpa [Step.rolled] using Pool.inRange_roll h run.draws
    · simpa [Step.rolled, same] using h

end Run.Onward

/-- Actions that lead to a later run. -/
def Simulation.onward (ι lang : Type) : Simulation (Step ι lang) (Step ι lang) :=
  .ofKept (fun act => ∀ run, Run.Onward run (act run).2) (fun _ run => .refl run) fun hx hf run =>
    (hx run).trans (hf _ _)

namespace Scope

variable [DecidableEq ι]

theorem onward_primitives (scope : Scope ι lang) :
    (Simulation.onward ι lang).Primitives scope scope fun _ _ => True where
  fields := rfl
  maxDepth := rfl
  stores := rfl
  say n run := by
    rw [Step.say_run]
    exact .said scope.tracing n run
  memoized key run := .refl run
  memoize key value run := .of_eq rfl rfl
  fetch store _ store' _ chain key _ _ _ run := by
    match found : store key scope.language with
    | none =>
      rw [Step.fetch_missing found]
      exact .of_eq rfl rfl
    | some (.text raw) =>
      rw [Step.fetch_text found]
      exact .of_eq rfl rfl
    | some (.pool place) =>
      rw [Step.fetch_pool found, Step.roll_run]
      have asked : run.Onward (Step.asked scope.language chain key run) := .of_eq rfl rfl
      exact asked.trans (.rolled key place _)
  below _ _ _ _ _ _ := trivial

/-- A call only turns pools and takes draws. -/
theorem serve_onward (scope : Scope ι lang) (call : Call) (run : Run ι lang) :
    run.Onward (scope.serve call run).2 :=
  scope.onward_primitives.serve call (fun _ _ => trivial) (fun _ _ => trivial) run

end Scope

end Phrasebook
