import Mathlib.Data.List.Perm.Subperm
import Phrasebook.Proofs.Expansion.Call

/-!
# The depth limit

A limit shows only where it refuses a key. Until then a call goes the same under any greater one:
the same answer, the same events in the same order, the same pools and draws (`serve_deeper`). And
a store with few keys cannot exceed a limit that is greater than their number, cyclic references
or not: the chain holds different keys, and every one of them is stored.
-/

namespace Phrasebook

variable {ι lang : Type}

/-- Is the event the refusal of a key for its depth? -/
def Event.isTooDeep : Event ι lang → Bool
  | .note (.tooDeep ..) => true
  | _ => false

theorem Event.isTooDeep_of_trace (n : Note) (h : n.isTrace = true) :
    (Event.note n : Event ι lang).isTooDeep = false := by
  cases n with
  | tooDeep => cases h
  | cyclic | unresolved | resolved | decided => rfl

/-- No key was refused for its depth. -/
def Run.Shallow (run : Run ι lang) : Prop := ∀ e ∈ run.trail, e.isTooDeep = false

instance (run : Run ι lang) : Decidable run.Shallow := by
  unfold Run.Shallow
  infer_instance

theorem Run.Shallow.of_suffix {run after : Run ι lang} (shallow : after.Shallow)
    (longer : run.trail <:+ after.trail) : run.Shallow :=
  fun e he => shallow e (longer.subset he)

namespace Simulation

/-- The second action goes like the first, unless that refuses a key for its depth. -/
def deepening (ι lang : Type) : Simulation (Step ι lang) (Step ι lang) where
  Rel x y := ∀ run, run.trail <:+ (x run).2.trail ∧ ((x run).2.Shallow → y run = x run)
  pure _ _ := ⟨List.suffix_refl _, fun _ => rfl⟩
  bind {_ _ x y f g} hx hf run := by
    obtain ⟨longer, same⟩ := hx run
    obtain ⟨longer', same'⟩ := hf (x run).1 (x run).2
    refine ⟨longer.trans longer', fun shallow => ?_⟩
    rw [Step.bind_run, Step.bind_run, same (shallow.of_suffix longer')]
    exact same' shallow

theorem deepening_of_suffix {α : Type} {act : Step ι lang α}
    (longer : ∀ run, run.trail <:+ (act run).2.trail) : (deepening ι lang).Rel act act :=
  fun run => ⟨longer run, fun _ => rfl⟩

theorem deepening_say (tracing : Bool) (n : Note) :
    (deepening ι lang).Rel (Step.say tracing n) (Step.say tracing n) :=
  deepening_of_suffix fun run => by
    rw [Step.say_run]
    exact Step.trail_suffix_said tracing n run

end Simulation

namespace Scope

/-- The scope with another limit. -/
def withLimit (scope : Scope ι lang) (limit : Int) : Scope ι lang :=
  { scope with maxDepth := limit }

section Filling

variable {scope : Scope ι lang} {ask ask' : Text → Step ι lang (Option Text)}

theorem deepening_judge (limit : Int)
    (hask : ∀ name, (Simulation.deepening ι lang).Rel (ask name) (ask' name)) (expression : Text) :
    (Simulation.deepening ι lang).Rel (scope.evaluate ask expression)
      ((scope.withLimit limit).evaluate ask' expression) :=
  Simulation.judge _ rfl (fun name _ => hask name) (Simulation.deepening_say scope.tracing)
    expression

theorem deepening_fillHoles (limit : Int)
    (hask : ∀ name, (Simulation.deepening ι lang).Rel (ask name) (ask' name)) (t : Template) :
    (Simulation.deepening ι lang).Rel (scope.fillHoles ask t)
      ((scope.withLimit limit).fillHoles ask' t) := by
  have silent {α : Type} {act : Step ι lang α} (h : ∀ run, (act run).2.trail = run.trail) :
      (Simulation.deepening ι lang).Rel act act :=
    Simulation.deepening_of_suffix fun run => h run ▸ List.suffix_refl _
  rw [fillHoles_eq, fillHoles_eq]
  refine Simulation.fillWith _ (deepening_judge limit hask) (fun key => ?_) t
  exact Simulation.fillKey _ rfl (silent fun _ => rfl) (fun _ => silent fun _ => rfl)
    (fun _ => hask key) (Simulation.deepening_say scope.tracing _)

/-- What a condition adds besides what the store adds is a trace. -/
theorem adding_judge {Q : Event ι lang → Prop} (htrace : ∀ n : Note, n.isTrace = true → Q (.note n))
    (hask : ∀ name, (adding Q).Keeps (ask name)) (expression : Text) :
    (adding Q).Keeps (scope.evaluate ask expression) :=
  Simulation.evaluate _
    (Simulation.evaluateAtom _ (fun name _ => hask name) fun _ _ => adding_say (htrace _ rfl) _)
    expression

/-- What the holes of a text add besides what the store adds are traces. -/
theorem adding_fillHoles {Q : Event ι lang → Prop}
    (htrace : ∀ n : Note, n.isTrace = true → Q (.note n))
    (hask : ∀ name, (adding Q).Keeps (ask name)) (t : Template) :
    (adding Q).Keeps (scope.fillHoles ask t) := by
  have silent {α : Type} {act : Step ι lang α} (h : ∀ run, (act run).2.trail = run.trail) :
      (adding Q).Keeps act := fun run => ⟨[], h run, List.forall_mem_nil _⟩
  rw [fillHoles_eq]
  refine Simulation.fillWith _ (adding_judge htrace hask) (fun key => ?_) t
  exact Simulation.fillKey _ rfl (silent fun _ => rfl) (fun _ => silent fun _ => rfl)
    (fun _ => hask key) (adding_say (htrace _ rfl) _)

end Filling

variable [DecidableEq ι] {scope : Scope ι lang}

/-- A stored key with more room goes the same, unless it is refused for its depth with less. The
induction is on the room. -/
theorem deepening_stored (scope : Scope ι lang) (limit : Int) {room room' : Nat}
    (h : room ≤ room') (chain : List Text) (key : Text) :
    (Simulation.deepening ι lang).Rel (scope.stored room chain key)
      ((scope.withLimit limit).stored room' chain key) := by
  let R := Simulation.deepening ι lang
  have say (n : Note) : R.Rel (Step.say scope.tracing n) (Step.say scope.tracing n) :=
    Simulation.deepening_say scope.tracing n
  cases hs : scope.store with
  | none =>
    intro run
    have hs' : (scope.withLimit limit).store = none := hs
    rw [stored_storeless hs, stored_storeless hs']
    exact ⟨List.suffix_refl _, fun _ => rfl⟩
  | some store =>
  have hs' : (scope.withLimit limit).store = some store := hs
  induction room generalizing room' chain key with
  | zero =>
    intro run
    by_cases here : Text.lower key ∈ chain
    · rw [stored_cyclic hs here, stored_cyclic hs' here]
      exact ⟨List.suffix_cons _ _, fun _ => rfl⟩
    · rw [stored_tooDeep hs here]
      refine ⟨List.suffix_cons _ _, fun shallow => ?_⟩
      cases shallow _ List.mem_cons_self
  | succ room ih =>
    obtain ⟨room', rfl⟩ : ∃ r, room' = r + 1 := ⟨room' - 1, by omega⟩
    unfold stored
    simp only [hs, hs']
    split
    · exact R.bind (say _) fun _ => R.pure none
    · refine R.bind (Simulation.deepening_of_suffix
        (trail_suffix_fetch store scope.language chain key)) fun fetched => ?_
      cases fetched with
      | none => exact R.pure none
      | some raw =>
        have below (name : Text) :
            R.Rel (scope.stored room (chain ++ [Text.lower key]) name)
              ((scope.withLimit limit).stored room' (chain ++ [Text.lower key]) name) :=
          ih (by omega) (chain ++ [Text.lower key]) name
        refine R.bind (deepening_fillHoles limit below (Template.read raw)) fun value => ?_
        exact R.bind (say _) fun _ => R.pure (some value)

/-- Under a chain of different stored keys that are fewer than the limit nothing is refused for
its depth. The induction is on the room that is left; room and chain together make up the limit. -/
theorem adding_stored_of_few {keys : List Text}
    (few : ∀ store ∈ scope.store, ∀ key found,
      store key scope.language = some found → Text.lower key ∈ keys)
    (deep : keys.length < scope.maxDepth.toNat) (room : Nat) {chain : List Text}
    (hroom : chain.length + room = scope.maxDepth.toNat) (different : chain.Nodup)
    (within : chain ⊆ keys) (key : Text) :
    (adding fun e : Event ι lang => e.isTooDeep = false).Keeps (scope.stored room chain key) := by
  let R := adding fun e : Event ι lang => e.isTooDeep = false
  cases hs : scope.store with
  | none =>
    intro run
    rw [stored_storeless hs]
    exact ⟨[], rfl, List.forall_mem_nil _⟩
  | some store =>
  induction room generalizing chain key with
  | zero =>
    have short : chain.length ≤ keys.length := (different.subperm within).length_le
    omega
  | succ room ih =>
    by_cases here : Text.lower key ∈ chain
    · intro run
      rw [stored_cyclic hs here]
      exact ⟨[.note (.cyclic key chain)], rfl, List.forall_mem_singleton.2 rfl⟩
    cases found : store key scope.language with
    | none =>
      intro run
      rw [stored_unfetched hs here (Step.fetch_missing found chain run)]
      exact ⟨[.lookup key scope.language chain], rfl, List.forall_mem_singleton.2 rfl⟩
    | some held =>
      have fetched : R.Keeps (Step.fetch store scope.language chain key) := by
        intro run
        obtain ⟨rolls, trail, hrolls⟩ := fetch_trail store scope.language chain key run
        refine ⟨rolls ++ [.lookup key scope.language chain], by simp [trail], ?_⟩
        refine List.forall_mem_append.2 ⟨fun e he => ?_, List.forall_mem_singleton.2 rfl⟩
        obtain ⟨place, picked, rfl⟩ := hrolls e he
        rfl
      -- The key is stored, so the chain goes on within the stored keys.
      have listed : Text.lower key ∈ keys := few store hs key held found
      have different' : (chain ++ [Text.lower key]).Nodup :=
        List.nodup_append.2 ⟨different, List.pairwise_singleton _ _, fun a ha b hb same =>
          here (List.mem_singleton.1 hb ▸ same ▸ ha)⟩
      have within' : chain ++ [Text.lower key] ⊆ keys :=
        List.append_subset.2 ⟨within, by simpa using listed⟩
      have below (name : Text) : R.Keeps (scope.stored room (chain ++ [Text.lower key]) name) :=
        ih (by simp; omega) different' within' name
      unfold stored
      simp only [hs, if_neg here]
      refine R.bind fetched fun raw => ?_
      cases raw with
      | none => exact R.pure none
      | some raw =>
        refine R.bind (adding_fillHoles Event.isTooDeep_of_trace below (Template.read raw))
          fun value => ?_
        have said : R.Keeps (Step.say scope.tracing (.resolved key chain.length)) :=
          adding_say (Q := fun e => e.isTooDeep = false) rfl scope.tracing
        exact R.bind said fun _ => R.pure (some value)

/-- **The depth limit is not seen before it is hit.** As long as a call refuses no key for its
depth, it goes the same under every greater limit: the same answer, and a run with the same
lookups, rolls and notes in the same order, the same pools and the same draws. Where all stored
keys have their small forms in a list that is shorter than the limit, no key is refused for its
depth, whatever the stored texts refer to. -/
theorem serve_deeper (scope : Scope ι lang) (call : Call) (pools : ι → Pool) (draws : Draws) :
    let served (limit : Int) := (scope.withLimit limit).serve call { pools, draws }
    (∀ limit limit', limit ≤ limit' → (served limit).2.Shallow → served limit' = served limit) ∧
      ∀ keys : List Text,
        (∀ store ∈ scope.store, ∀ key found,
          store key scope.language = some found → Text.lower key ∈ keys) →
        ∀ limit : Int, keys.length < limit → (served limit).2.Shallow := by
  intro served
  constructor
  · intro limit limit' le shallow
    let R := Simulation.deepening ι lang
    let s := scope.withLimit limit
    have ask (key : Text) : R.Rel (s.ask key) ((scope.withLimit limit').ask key) :=
      deepening_stored s limit' (Int.toNat_le_toNat le) [] key
    have related : R.Rel (s.serve call) ((scope.withLimit limit').serve call) := by
      cases call with
      | expand template =>
        exact R.bind (deepening_fillHoles limit' ask _) fun value => R.pure (Answer.text value)
      | expandKey key => exact R.bind (ask key) fun value => R.pure (Answer.stored value)
      | judge expression =>
        exact R.bind (deepening_judge limit' ask expression) fun value =>
          R.pure (Answer.verdict value)
    exact (related { pools, draws }).2 shallow
  · intro keys few limit deep
    let R := adding fun e : Event ι lang => e.isTooDeep = false
    let s := scope.withLimit limit
    have below : keys.length < s.maxDepth.toNat := by
      change keys.length < limit.toNat
      omega
    have listed : ∀ store ∈ s.store, ∀ key found,
        store key s.language = some found → Text.lower key ∈ keys := few
    have ask (key : Text) : R.Keeps (s.ask key) :=
      adding_stored_of_few listed below _ (Nat.zero_add _) List.nodup_nil (List.nil_subset keys) key
    have adds : R.Keeps (s.serve call) := by
      cases call with
      | expand template =>
        exact R.bind (adding_fillHoles Event.isTooDeep_of_trace ask _) fun value =>
          R.pure (Answer.text value)
      | expandKey key => exact R.bind (ask key) fun value => R.pure (Answer.stored value)
      | judge expression =>
        exact R.bind (adding_judge Event.isTooDeep_of_trace ask expression) fun value =>
          R.pure (Answer.verdict value)
    obtain ⟨more, trail, shallow⟩ := adds { pools, draws }
    rw [Run.Shallow, trail, List.append_nil]
    exact shallow

/-- A scope with two stored keys, the second of which refers to one that is missing. -/
def shortScope : Scope Unit Unit where
  store := some fun key _ =>
    if key = ['a'] then some (.text "{{b}}".toList)
    else if key = ['b'] then some (.pool ())
    else none
  language := ()
  fields := []
  maxDepth := 2
  tracing := true

/-- The pool of that scope refers to the key that is missing, and back. -/
def shortPools : Unit → Pool := fun _ => { candidates := ["{{c}}{{a}}".toList] }

/-- With two stored keys a limit of three is enough, and a greater one makes no difference. A
limit of two refuses the key that is missing. -/
theorem serve_deeper_short :
    let served (limit : Int) := (shortScope.withLimit limit).serve (.expand "{{a}}".toList)
      { pools := shortPools, draws := .cycle [] }
    ¬ (served 2).2.Shallow ∧ (served 3).2.Shallow ∧ served 9 = served 3 := by
  intro served
  obtain ⟨deeper, few⟩ := serve_deeper shortScope (.expand "{{a}}".toList) shortPools (.cycle [])
  have shallow : (served 3).2.Shallow := by
    refine few [['a'], ['b']] ?_ 3 (by decide)
    intro store hs key found held
    obtain rfl : _ = store := Option.some.inj hs
    by_cases ha : key = ['a']
    · rw [ha]
      decide +kernel
    by_cases hb : key = ['b']
    · rw [hb]
      decide +kernel
    · simp [ha, hb] at held
  exact ⟨by decide +kernel, shallow, deeper 3 9 (by decide) shallow⟩

end Scope

end Phrasebook
