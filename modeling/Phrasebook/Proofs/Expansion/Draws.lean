import Phrasebook.Expansion.Resolver
import Phrasebook.Proofs.Expansion.Accounts
import Phrasebook.Proofs.Expansion.Tracing
import Phrasebook.Proofs.Pool.Roll

/-!
# How often a pool is rolled

The accounts of a key say how often its pool is rolled in one call, and so when it is rolled
at most once (`Scope.rolls_le_one_iff`). Holes alone never roll a pool with candidates twice.
A condition on the bare name does, if anything else asked for the key.
-/

namespace Phrasebook

variable {ι lang : Type}

namespace Event

/-- A roll under this spelling of a key. -/
def rolls (key : Text) : Event ι lang → Bool
  | .roll k _ _ => k == key
  | _ => false

/-- A refusal of the key by one of the guards. -/
def refuses (key : Text) : Event ι lang → Bool
  | .note (.cyclic k _) => k == key
  | .note (.tooDeep _ k) => k == key
  | _ => false

theorem rolls_of_isTrace {key : Text} (e : Event ι lang) (h : e.isTrace = true) :
    e.rolls key = false := by
  cases e with
  | lookup => rfl
  | roll => cases h
  | note n => rfl

theorem refuses_of_isTrace {key : Text} (e : Event ι lang) (h : e.isTrace = true) :
    e.refuses key = false := by
  cases e with
  | lookup => rfl
  | roll => rfl
  | note n => cases n <;> first | rfl | cases h

end Event

/-- Every answer is a roll or a refusal. -/
theorem Run.count_answers (key : Text) (run : Run ι lang) :
    run.count (Event.answers key true) =
      run.count (Event.rolls key) + run.count (Event.refuses key) := by
  unfold Run.count
  induction run.trail with
  | nil => rfl
  | cons e trail ih =>
    have split : (if Event.answers key true e then 1 else 0) =
        (if Event.rolls key e then 1 else 0) + if Event.refuses key e then 1 else 0 := by
      cases e with
      | lookup => rfl
      | roll => simp [Event.answers, Event.rolls, Event.refuses]
      | note n => cases n <;> simp [Event.answers, Event.rolls, Event.refuses]
    rw [List.countP_cons, List.countP_cons, List.countP_cons, ih, split]
    omega

/-- The pool at a place has candidates, and every roll under the key has yielded one. -/
structure Run.Yields (key : Text) (place : ι) (run : Run ι lang) : Prop where
  inRange : (run.pools place).InRange
  filled : (run.pools place).candidates ≠ []
  rolls : run.count (Event.rolls key) = run.count (Event.answers key false)

theorem Run.Yields.said {key : Text} {place : ι} {run : Run ι lang} (h : run.Yields key place)
    (tracing : Bool) (n : Note) : (Step.said tracing n run).Yields key place := by
  have untold : Event.answers key false (.note n : Event ι lang) = false := by
    cases n <;> rfl
  have pools : (Step.said tracing n run).pools = run.pools := by
    unfold Step.said
    split <;> rfl
  refine ⟨pools ▸ h.inRange, pools ▸ h.filled, ?_⟩
  rw [Step.count_said rfl, Step.count_said untold, h.rolls]

theorem Run.Yields.asked {key : Text} {place : ι} {run : Run ι lang} (h : run.Yields key place)
    (language : lang) (chain : List Text) (name : Text) :
    (Step.asked language chain name run).Yields key place :=
  ⟨h.inRange, h.filled, by rw [Step.count_asked rfl, Step.count_asked rfl, h.rolls]⟩

section Pools

variable [DecidableEq ι] {store : Store ι lang} {key : Text} {place : ι} {scope : Scope ι lang}

/-- A fetch rolls at most one pool, and only for the key that it is for. -/
theorem Step.fetch_rolls (store : Store ι lang) (language : lang) (chain : List Text)
    (key name : Text) (run : Run ι lang) :
    (Step.fetch store language chain name run).2.count (Event.rolls key) ≤
      run.count (Event.rolls key) + if name = key then 1 else 0 := by
  match found : store name language with
  | none =>
    rw [Step.fetch_missing found, Step.count_asked rfl]
    exact Nat.le_add_right _ _
  | some (.text raw) =>
    rw [Step.fetch_text found, Step.count_asked rfl]
    exact Nat.le_add_right _ _
  | some (.pool p) =>
    refine Nat.le_of_eq ?_
    rw [Step.fetch_pool found, Step.roll_run, Step.count_rolled, Step.count_asked rfl]
    simp [Event.rolls]

namespace Scope

/-- Actions that roll nothing for a key. -/
def unrolled (ι lang : Type) (key : Text) : Simulation (Step ι lang) (Step ι lang) :=
  .ofKept (fun act => ∀ run, (act run).2.count (Event.rolls key) ≤ run.count (Event.rolls key))
    (fun _ _ => Nat.le_refl _) fun hx hf run => Nat.le_trans (hf _ _) (hx run)

/-- Inside the expansion of a key, and for any name but a key that a field binds, nothing is
rolled for the key. -/
theorem unrolled_primitives (scope : Scope ι lang) (key : Text) :
    (unrolled ι lang key).Primitives scope scope fun chain name =>
      Text.lower key ∈ chain ∨ (Field.find? key scope.fields).isSome ∧ name ≠ key where
  fields := rfl
  maxDepth := rfl
  stores := rfl
  say n run := Nat.le_of_eq (by rw [Step.say_run, Step.count_said rfl])
  memoized _ _ := Nat.le_refl _
  memoize _ _ _ := Nat.le_refl _
  fetch store _ _ _ chain name hname fresh _ run := by
    have hne : name ≠ key := by
      rcases hname with hin | ⟨-, hne⟩
      · exact fun h => fresh (h ▸ hin)
      · exact hne
    simpa [hne] using Step.fetch_rolls store scope.language chain key name run
  below chain name name' hname _ hfield := by
    rcases hname with hin | ⟨hkey, -⟩
    · exact .inl (List.mem_append_left _ hin)
    · exact .inr ⟨hkey, fun h => by simp [h ▸ hfield] at hkey⟩

/-- For a key that a field binds a call rolls nothing, unless it is made for that key. -/
theorem serve_unrolled (hkey : (Field.find? key scope.fields).isSome) {call : Call}
    (hcall : call ≠ .expandKey key) (run : Run ι lang) :
    (scope.serve call run).2.count (Event.rolls key) ≤ run.count (Event.rolls key) := by
  refine (scope.unrolled_primitives key).serve call ?_ ?_ run
  · exact fun name hname => .inr ⟨hkey, fun h => by simp [h ▸ hname] at hkey⟩
  · exact fun name hname => .inr ⟨hkey, fun h => hcall (h ▸ hname)⟩

/-- A call that is made for a key rolls its pool at the top and never again. -/
theorem expandKey_rolls_le (run : Run ι lang) :
    (scope.serve (.expandKey key) run).2.count (Event.rolls key) ≤
      run.count (Event.rolls key) + 1 := by
  change (scope.stored scope.maxDepth.toNat [] key run).2.count (Event.rolls key) ≤ _
  have fresh : Text.lower key ∉ [] := List.not_mem_nil
  match hstore : scope.store, hroom : scope.maxDepth.toNat with
  | none, _ =>
    rw [stored_storeless hstore]
    exact Nat.le_succ _
  | some store, 0 =>
    rw [stored_tooDeep hstore fresh]
    exact Nat.le_succ _
  | some store, room + 1 =>
    have fetched := Step.fetch_rolls store scope.language [] key key run
    rw [if_pos rfl] at fetched
    match hfetch : Step.fetch store scope.language [] key run with
    | (none, after) =>
      rw [hfetch] at fetched
      rwa [stored_unfetched hstore fresh hfetch]
    | (some raw, after) =>
      rw [hfetch] at fetched
      match hfill : scope.fillHoles (scope.stored room ([] ++ [Text.lower key]))
          (Template.read raw) after with
      | (value, after') =>
        have below := (scope.unrolled_primitives key).fillHoles room [Text.lower key]
          (by rw [hroom, List.length_singleton, Nat.add_comm])
          (fun name _ => .inl (List.mem_singleton_self _)) (Template.read raw) after
        simp only [List.nil_append] at hfill
        rw [hfill] at below
        rw [stored_fetched hstore fresh hfetch hfill, Step.count_said rfl]
        exact Nat.le_trans below fetched

end Scope

/-- Rolling any pool leaves the pool of the key filled, and rolling it yields. -/
theorem Run.Yields.rolled {run : Run ι lang} (h : run.Yields key place) {name : Text} {p : ι}
    (hplace : name = key → p = place) : (Step.rolled name p run).Yields key place := by
  have turned : (Step.rolled name p run).pools place =
      if place = p then ((run.pools p).roll run.draws).2.1 else run.pools place := rfl
  refine ⟨?_, ?_, ?_⟩
  · rw [turned]
    split
    · next hp => exact Pool.inRange_roll (hp ▸ h.inRange) run.draws
    · exact h.inRange
  · rw [turned]
    split
    · next hp =>
      rw [Pool.roll_candidates]
      exact hp ▸ h.filled
    · exact h.filled
  · by_cases hname : name = key
    · obtain rfl := hplace hname
      have picked := Pool.roll_isSome h.inRange h.filled run.draws
      rw [Step.count_rolled, Step.count_rolled, h.rolls]
      simp [Event.rolls, Event.answers, picked]
    · rw [Step.count_rolled, Step.count_rolled, h.rolls]
      simp [Event.rolls, Event.answers, hname]

namespace Scope

/-- Actions under which the pool of a key goes on yielding. -/
def yielding (lang : Type) (key : Text) (place : ι) : Simulation (Step ι lang) (Step ι lang) :=
  .ofKept (fun act => ∀ run, run.Yields key place → (act run).2.Yields key place)
    (fun _ _ h => h) fun hx hf run h => hf _ _ (hx run h)

theorem yielding_primitives (scope : Scope ι lang) (hstore : scope.store = some store)
    (hpool : store key scope.language = some (.pool place)) :
    (yielding lang key place).Primitives scope scope fun _ _ => True where
  fields := rfl
  maxDepth := rfl
  stores := rfl
  say n run h := by
    rw [Step.say_run]
    exact h.said scope.tracing n
  memoized _ _ h := h
  memoize _ _ _ h := ⟨h.inRange, h.filled, h.rolls⟩
  fetch store' hs _ _ chain name _ _ _ run h := by
    obtain rfl : store = store' := Option.some.inj (hstore.symm.trans hs)
    have asked := h.asked scope.language chain name
    match found : store name scope.language with
    | none => rwa [Step.fetch_missing found]
    | some (.text raw) => rwa [Step.fetch_text found]
    | some (.pool p) =>
      rw [Step.fetch_pool found, Step.roll_run]
      refine asked.rolled fun hname => ?_
      rw [hname, hpool] at found
      exact (Found.pool.inj (Option.some.inj found)).symm
  below _ _ _ _ _ _ := trivial

/-- How often a call rolls the pool of a key that no field binds, unless it is made for that
key. Rolls and refusals together are one for all the holes that found something, one for each
hole that found nothing, and one for each condition on the bare name. Where the pool has
candidates, the holes that found nothing were refused, and so were the conditions without a
verdict. -/
theorem serve_rolls (hstore : scope.store = some store)
    (hpool : store key scope.language = some (.pool place))
    (hfield : Field.find? key scope.fields = none) {call : Call} (hcall : call ≠ .expandKey key)
    (pools : ι → Pool) (draws : Draws) :
    let start : Run ι lang := { pools, draws }
    let after := (scope.serve call start).2
    let traced := ((scope.withTracing true).serve call start).2
    after.count (Event.rolls key) + after.count (Event.refuses key) =
        after.held key + traced.count (Event.asks key true) ∧
      ((pools place).InRange → (pools place).candidates ≠ [] →
        after.count (Event.rolls key) = after.held key + traced.count (Event.asks key false)) := by
  intro start after traced
  have books (idle : Bool) : traced.balance key idle = 0 :=
    serve_balance (scope.withTracing true) hstore hpool rfl hfield hcall start
  have similar : after.Similar traced := (scope.serve_tracing true call (.refl start)).2
  have held : traced.held key = after.held key := by
    rw [Run.held, Run.held, similar.memo]
  have rolls : traced.count (Event.rolls key) = after.count (Event.rolls key) :=
    (similar.count_eq Event.rolls_of_isTrace).symm
  have refuses : traced.count (Event.refuses key) = after.count (Event.refuses key) :=
    (similar.count_eq Event.refuses_of_isTrace).symm
  constructor
  · have all := books true
    rw [Run.balance, Run.count_answers, held] at all
    omega
  · intro inRange filled
    have yields : traced.Yields key place :=
      (yielding_primitives (scope.withTracing true) hstore hpool).serve call
        (fun _ _ => trivial) (fun _ _ => trivial) start ⟨inRange, filled, rfl⟩
    have found := books false
    rw [Run.balance, held, ← yields.rolls] at found
    omega

/-- A key that is bound to a pool is rolled at most once in a call exactly when the call is
made for that key, or a field binds it, or those who asked for it and were not refused are no
more than one. For a pool with candidates these are the holes that found something, which
count as one, and the conditions that found something, which do not: holes alone never roll
it twice. -/
theorem rolls_le_one_iff (hstore : scope.store = some store)
    (hpool : store key scope.language = some (.pool place)) (call : Call) (pools : ι → Pool)
    (draws : Draws) :
    let start : Run ι lang := { pools, draws }
    let after := (scope.serve call start).2
    let traced := ((scope.withTracing true).serve call start).2
    (after.count (Event.rolls key) ≤ 1 ↔
      call = .expandKey key ∨ (Field.find? key scope.fields).isSome ∨
        after.held key + traced.count (Event.asks key true) ≤
          after.count (Event.refuses key) + 1) ∧
      ((pools place).InRange → (pools place).candidates ≠ [] →
        (after.count (Event.rolls key) ≤ 1 ↔
          call = .expandKey key ∨ (Field.find? key scope.fields).isSome ∨
            after.held key + traced.count (Event.asks key false) ≤ 1)) := by
  intro start after traced
  by_cases hcall : call = .expandKey key
  · have once : after.count (Event.rolls key) ≤ 1 := by
      subst hcall
      exact expandKey_rolls_le start
    simp [once, hcall]
  by_cases hkey : (Field.find? key scope.fields).isSome
  · have never : after.count (Event.rolls key) ≤ 0 := serve_unrolled hkey hcall start
    simp [hkey, Nat.le_succ_of_le never]
  have hfield : Field.find? key scope.fields = none := by simpa using hkey
  obtain ⟨all, found⟩ := serve_rolls hstore hpool hfield hcall pools draws
  have all : after.count (Event.rolls key) + after.count (Event.refuses key) =
      after.held key + traced.count (Event.asks key true) := all
  simp only [hcall, hkey, false_or, Bool.false_eq_true]
  constructor
  · omega
  · intro inRange filled
    have found : after.count (Event.rolls key) = after.held key + traced.count _ :=
      found inRange filled
    rw [found]

end Scope

end Pools

/-- A scope whose store holds one pool. -/
def tipScope : Scope Unit Unit where
  store := some fun key _ => if key = "tip".toList then some (.pool ()) else none
  language := ()
  fields := []
  maxDepth := defaultMaxDepth
  tracing := false

/-- The pool of that scope: it yields a truth first and then something else. -/
def tipPools : Unit → Pool := fun _ => { candidates := ["yes".toList, "no".toList] }

/-- Two holes share one roll. -/
theorem Scope.rolls_le_one_of_holes :
    (tipScope.serve (.expand "{{tip}}, {{tip}}".toList)
      { pools := tipPools, draws := .cycle [] }).2.count (Event.rolls "tip".toList) ≤ 1 :=
  ((rolls_le_one_iff rfl rfl (.expand "{{tip}}, {{tip}}".toList) tipPools (.cycle [])).2
    (.inl (by decide)) (by decide)).2 (.inr (.inr (by decide +kernel)))

/-- A condition and the hole that it guards roll twice and see different candidates. -/
theorem Scope.condition_rolls_again :
    let outcome := tipScope.serve (.expand "{{if:tip:tip}}".toList)
      { pools := tipPools, draws := .cycle [] }
    outcome.1 = .text "no".toList ∧ outcome.2.count (Event.rolls "tip".toList) = 2 := by
  decide +kernel

end Phrasebook
