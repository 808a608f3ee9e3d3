import Phrasebook.Proofs.Expansion.SingleRolls
import Phrasebook.Proofs.Package.Reading
import Phrasebook.Proofs.Pool.Rotation

/-!
# One call sees one state of the pools

A template without choices is expanded as if every pool had been exchanged beforehand for one of
its candidates (`expand_snapshot`). Which one can be told only when the call is over: it is what
the pool was rolled to. The proof is in two parts that know nothing of each other. If all rolls of
a call agree with a choice of candidates, the call goes as it does on the store with that choice
(`Simulation.snapping`), whatever is on the trail. And the rolls do agree where no pool stands under
two keys: then a pool turns at most once in a call, and is rolled as the call has found it
(`Run.Turned`). The pools of a package stand under one key each (`Package.sole`).
-/

namespace Phrasebook

variable {ι lang : Type}

/-- Is the event a roll? -/
def Event.isRoll : Event ι lang → Bool
  | .roll .. => true
  | _ => false

/-- All rolls of a pool yielded what was chosen for it. -/
def Agrees (choice : ι → Option Text) (trail : List (Event ι lang)) : Prop :=
  ∀ key place picked, .roll key place picked ∈ trail → picked = choice place

/-- A run and another one without its rolls. -/
structure Run.Snapped (run run' : Run ι lang) : Prop where
  memo : run'.memo = run.memo
  trail : run'.trail = run.trail.filter fun e => !e.isRoll

namespace Run.Snapped

variable {run run' : Run ι lang}

theorem said (h : run.Snapped run') (tracing : Bool) (n : Note) :
    (Step.said tracing n run).Snapped (Step.said tracing n run') := by
  unfold Step.said
  split
  · exact h
  · exact ⟨h.memo, by simp [h.trail, Event.isRoll]⟩

theorem memoize (h : run.Snapped run') (key value : Text) :
    { run with memo := (key, value) :: run.memo }.Snapped
      { run' with memo := (key, value) :: run'.memo } :=
  ⟨congrArg ((key, value) :: ·) h.memo, h.trail⟩

theorem asked (h : run.Snapped run') (language : lang) (chain : List Text) (key : Text) :
    (Step.asked language chain key run).Snapped (Step.asked language chain key run') :=
  ⟨h.memo, by simp [Step.asked, h.trail, Event.isRoll]⟩

/-- A roll is left out. -/
theorem rolled [DecidableEq ι] (h : run.Snapped run') (key : Text) (place : ι) :
    (Step.rolled key place run).Snapped run' :=
  ⟨h.memo, by simp [Step.rolled, h.trail, Event.isRoll]⟩

end Run.Snapped

/-- The second action goes like the first without its rolls, if these agree with a choice. -/
def Simulation.snapping (ι lang : Type) (choice : ι → Option Text) :
    Simulation (Step ι lang) (Step ι lang) where
  Rel x y := (∀ run, run.trail <:+ (x run).2.trail) ∧
    ∀ run run', run.Snapped run' → Agrees choice (x run).2.trail →
      (x run).1 = (y run').1 ∧ (x run).2.Snapped (y run').2
  pure _ := ⟨fun _ => List.suffix_refl _, fun _ _ h _ => ⟨rfl, h⟩⟩
  bind {_ _ x y f g} hx hf := by
    refine ⟨fun run => (hx.1 run).trans ((hf _).1 _), fun run run' h agrees => ?_⟩
    have first : Agrees choice (x run).2.trail := fun key place picked rolled =>
      agrees key place picked (((hf (x run).1).1 (x run).2).subset rolled)
    obtain ⟨answer, snapped⟩ := hx.2 run run' h first
    rw [Step.bind_run, Step.bind_run, ← answer]
    exact (hf _).2 _ _ snapped agrees

/-- The store with every pool exchanged for the text that is chosen for it. A pool without a choice
is a key that is missing. -/
def Store.snapshot (choice : ι → Option Text) (store : Store ι lang) : Store ι lang :=
  fun key language =>
    match store key language with
    | some (.pool place) => (choice place).map .text
    | found => found

namespace Scope

/-- The scope with the pools of its store exchanged for what is chosen for them. -/
def snapshot (scope : Scope ι lang) (choice : ι → Option Text) : Scope ι lang :=
  { scope with store := scope.store.map (Store.snapshot choice) }

section Snapping

variable [DecidableEq ι]

theorem snapping_fetch (store : Store ι lang) (choice : ι → Option Text) (language : lang)
    (chain : List Text) (key : Text) :
    (Simulation.snapping ι lang choice).Rel (Step.fetch store language chain key)
      (Step.fetch (store.snapshot choice) language chain key) := by
  refine ⟨trail_suffix_fetch store language chain key, fun run run' h agrees => ?_⟩
  have asked := h.asked language chain key
  match found : store key language with
  | none =>
    have found' : store.snapshot choice key language = none := by
      simp only [Store.snapshot, found]
    rw [Step.fetch_missing found, Step.fetch_missing found']
    exact ⟨rfl, asked⟩
  | some (.text raw) =>
    have found' : store.snapshot choice key language = some (.text raw) := by
      simp only [Store.snapshot, found]
    rw [Step.fetch_text found, Step.fetch_text found']
    exact ⟨rfl, asked⟩
  | some (.pool place) =>
    have found' : store.snapshot choice key language = (choice place).map .text := by
      simp only [Store.snapshot, found]
    rw [Step.fetch_pool found, Step.roll_run] at agrees ⊢
    have picked := agrees key place _ List.mem_cons_self
    have rolled := asked.rolled key place
    cases chosen : choice place with
    | none =>
      rw [chosen] at found' picked
      rw [Step.fetch_missing found']
      exact ⟨picked, rolled⟩
    | some raw =>
      rw [chosen] at found' picked
      rw [Step.fetch_text found']
      exact ⟨picked, rolled⟩

theorem snapping_primitives (scope : Scope ι lang) (choice : ι → Option Text) :
    (Simulation.snapping ι lang choice).Primitives scope (scope.snapshot choice)
      fun _ _ => True where
  fields := rfl
  maxDepth := rfl
  stores := by simp [snapshot]
  say n := by
    refine ⟨fun run => ?_, fun run run' h _ => ?_⟩
    · rw [Step.say_run]
      exact Step.trail_suffix_said scope.tracing n run
    · rw [Step.say_run, Step.say_run]
      exact ⟨rfl, h.said scope.tracing n⟩
  memoized key := by
    refine ⟨fun run => List.suffix_refl _, fun run run' h _ => ⟨?_, h⟩⟩
    rw [Step.memoized_run, Step.memoized_run, h.memo]
  memoize key value :=
    ⟨fun run => List.suffix_refl _, fun run run' h _ => ⟨rfl, h.memoize key value⟩⟩
  fetch store hs store' hs' chain key _ _ _ := by
    have mapped : (scope.snapshot choice).store = some (store.snapshot choice) :=
      congrArg (Option.map _) hs
    obtain rfl : store.snapshot choice = store' := Option.some.inj (mapped.symm.trans hs')
    exact snapping_fetch store choice scope.language chain key
  below _ _ _ _ _ _ := trivial

end Snapping

end Scope

/-- The raw texts of an entry. -/
def Entry.texts : Entry → List Text
  | .text t => [t]
  | .pool p => p.candidates

namespace Package

variable {p : Package} {language : Language} {key : Text}

/-- A text that a package holds as a store is an entry. -/
theorem entry_of_find_text {t : Text} (h : p.find key language = some (.text t)) :
    ∃ l, p.entry? language key = some (l, .text t) := by
  unfold find at h
  split at h
  · next l t' entry =>
    obtain rfl := Found.text.inj (Option.some.inj h)
    exact ⟨l, entry⟩
  · cases h
  · cases h

/-- A pool that a package holds as a store is an entry, and stands at the small form of its key. -/
theorem entry_of_find_pool {place : PoolPlace} (h : p.find key language = some (.pool place)) :
    p.entry? language key = some (place.1, .pool (p.pools place)) ∧
      place.2 = Text.lower key := by
  unfold find at h
  split at h
  · cases h
  · next l q entry =>
    obtain rfl := Found.pool.inj (Option.some.inj h)
    have stands : p.pools (l, Text.lower key) = q := pools_of_entry? entry
    exact ⟨stands.symm ▸ entry, rfl⟩
  · cases h

/-- In a package no pool stands under two keys, whatever the language and its fallback are. -/
theorem sole (r : Resolver) (p : Package) (language : Language) (fields : List (Option Field)) :
    (r.scope shelf (some p) language fields).Sole := by
  intro store hs place key key' found found'
  obtain rfl : p.find = store := Option.some.inj hs
  exact (entry_of_find_pool found).2.symm.trans (entry_of_find_pool found').2

/-- What a package holds as a store is a text of an entry in one of its catalogs. -/
theorem listed_of_holds {r : Resolver} {fields : List (Option Field)} {raw : Text}
    (h : (r.scope shelf (some p) language fields).Holds p.pools raw) :
    ∃ c ∈ p.catalogs, ∃ e ∈ c.2.entries.toList, raw ∈ e.2.texts := by
  obtain ⟨store, hs, key, held⟩ := h
  obtain rfl : p.find = store := Option.some.inj hs
  obtain ⟨l, e, entry, among⟩ : ∃ l e, p.entry? language key = some (l, e) ∧ raw ∈ e.texts := by
    rcases held with text | ⟨place, pool, candidate⟩
    · obtain ⟨l, entry⟩ := entry_of_find_text text
      exact ⟨l, .text raw, entry, List.mem_singleton_self raw⟩
    · exact ⟨place.1, .pool (p.pools place), (entry_of_find_pool pool).1, candidate⟩
  obtain ⟨c, catalog, entries⟩ := catalog_of_entry entry
  obtain ⟨before, later, catalogs, -⟩ := List.lookup_eq_some_iff.1 catalog
  obtain ⟨front, back, split, -⟩ := List.lookup_eq_some_iff.1 entries
  exact ⟨(l, c), catalogs ▸ by simp, (Text.lower key, e), split ▸ by simp, among⟩

end Package

namespace Scope

section Expand

variable [DecidableEq ι] {scope : Scope ι lang} {pools : ι → Pool} {template : Text}
  (inRange : ∀ place, (pools place).InRange) (plain : (Template.read template).Plain)
  (stored : ∀ raw, scope.Holds pools raw → (Template.read raw).Plain) (sole : scope.Sole)
  (draws : Draws)

include inRange plain stored sole

/-- What a pool is rolled to, or could be. -/
theorem exists_choice (place : ι) : ∃ choice : Option Text,
    (pools place).Offers choice ∧
      (∀ key picked, .roll key place picked ∈
        (scope.serve (.expand template) { pools, draws }).2.trail → picked = choice) ∧
      ((pools place).policy ≠ .random →
        choice = (pools place).candidates[(pools place).cursor]?) := by
  have turned := turned_expand inRange plain stored draws
  by_cases empty : (pools place).candidates = []
  · refine ⟨none, empty, fun key picked rolled => ?_, fun _ => by rw [empty]; rfl⟩
    obtain ⟨-, -, offers⟩ := turned.proper _ rolled
    exact offers.eq_none empty
  by_cases turns : Run.count (Event.turns place)
      (scope.serve (.expand template) { pools, draws }).2 = 0
  · refine ⟨(pools place).candidates[(pools place).cursor]?, Pool.offers_cursor (inRange place),
      fun key picked rolled => ?_, fun _ => rfl⟩
    -- The roll would yield nothing of a pool that has candidates.
    cases picked with
    | none =>
      obtain ⟨-, -, offers⟩ := turned.proper _ rolled
      exact absurd offers empty
    | some text =>
      have idle := List.countP_eq_zero.1 turns _ rolled
      simp [Event.turns] at idle
  · have once := Nat.le_antisymm (turns_le_one inRange plain stored draws sole place)
      (Nat.pos_of_ne_zero turns)
    obtain ⟨shared, -, picks⟩ := turned.once place once
    refine ⟨((pools place).roll shared).1, Pool.offers_roll (inRange place) shared,
      fun key picked rolled => ?_, fun sequential => ?_⟩
    · cases picked with
      | none =>
        obtain ⟨-, -, offers⟩ := turned.proper _ rolled
        exact absurd offers empty
      | some text => exact (picks key text rolled).symm
    · rw [Pool.roll_sequential sequential empty]

/-- **One call sees one state of the pools.** Where no pool stands under two keys, no hole of the
template or of a stored text is a choice and all keys are in small letters, an expansion gives the
text, and says and looks up the same in the same order, as on the store where each pool is
exchanged for one of its candidates, and each empty pool for nothing. The rolls of the call yield
what is chosen. In a sequential pool the candidate under the cursor is chosen. A pool yields at most
once; if it does its cursor advances by one step, and if it does not it stands as before. -/
theorem expand_snapshot :
    let after := scope.expand template { pools, draws }
    ∃ choice : ι → Option Text,
      (∀ place, (pools place).Offers (choice place)) ∧
      Agrees choice after.2.trail ∧
      (∀ pools' draws',
        let still := (scope.snapshot choice).expand template { pools := pools', draws := draws' }
        still.1 = after.1 ∧ still.2.trail = after.2.trail.filter fun e => !e.isRoll) ∧
      ∀ place,
        ((pools place).policy ≠ .random →
          choice place = (pools place).candidates[(pools place).cursor]?) ∧
        after.2.count (Event.turns place) ≤ 1 ∧
        (after.2.count (Event.turns place) = 0 → after.2.pools place = pools place) ∧
        (after.2.count (Event.turns place) = 1 → (after.2.pools place).cursor =
          Pool.advance (pools place).policy (pools place).candidates.length
            (pools place).cursor) := by
  intro after
  have turned : after.2.Turned scope pools := turned_expand inRange plain stored draws
  choose choice offers agrees cursor using exists_choice inRange plain stored sole draws
  have all : Agrees choice after.2.trail := fun key place => agrees place key
  refine ⟨choice, offers, all, fun pools' draws' => ?_, fun place => ⟨cursor place, ?_, ?_, ?_⟩⟩
  · have related := (scope.snapping_primitives choice).serve (.expand template)
      (fun _ _ => trivial) fun _ _ => trivial
    have start : ({ pools, draws } : Run ι lang).Snapped { pools := pools', draws := draws' } :=
      ⟨rfl, rfl⟩
    obtain ⟨answer, snapped⟩ := related.2 _ _ start all
    exact ⟨(Answer.text.inj answer).symm, snapped.trail⟩
  · exact turns_le_one inRange plain stored draws sole place
  · exact turned.unturned place
  · intro one
    obtain ⟨shared, pool, -⟩ := turned.once place one
    obtain ⟨e, he, turns⟩ : ∃ e ∈ after.2.trail, e.turns place = true :=
      List.countP_pos_iff.1 (Nat.lt_of_lt_of_eq Nat.zero_lt_one one.symm)
    obtain ⟨key, text, rfl⟩ := Event.eq_roll_of_turns turns
    obtain ⟨-, -, candidate⟩ := turned.proper _ he
    rw [pool, Pool.roll_nonempty (List.ne_nil_of_mem candidate)]

end Expand

end Scope

namespace Package

/-- A package of a German pool and an English one that refer to each other. English stands behind
German. The first pool goes forward and the second one backward. -/
def entwined : Package where
  directory := ['.']
  name := ['p']
  fallback := some .english
  catalogs := [
    (.german, (Catalog.new "p_de.yml".toList .german).add ['a']
      (.pool (.ofList .sequential ["{{b}}".toList, ['x']] none))),
    (.english, (Catalog.new "p_en.yml".toList .english).add ['b']
      (.pool (.ofList .sequentialReversed [['y'], "{{a}}!".toList] none)))]

theorem standing_entwined : entwined.Standing := by
  refine ⟨by decide, fun e he => ?_⟩
  rcases List.mem_pair.1 he with rfl | rfl
  · exact (Catalog.standing_new _ _).insert _ (Pool.inRange_ofList _ _ _)
  · exact (Catalog.standing_new _ _).insert _ (Pool.inRange_ofList _ _ _)

end Package

namespace Scope

/-- The pools are asked for while their own texts are open, and each turns once. -/
theorem expand_snapshot_mutual :
    let scope := ({} : Resolver).scope Package.shelf (some Package.entwined) .german []
    let after := scope.expand "{{a}}{{b}}".toList
      { pools := Package.entwined.pools, draws := .cycle [] }
    after.1 = "a!a!".toList ∧
      (after.2.pools (.german, ['a'])).cursor = 1 ∧ (after.2.pools (.english, ['b'])).cursor = 0 ∧
      ∃ choice, choice (.german, ['a']) = some "{{b}}".toList ∧
        choice (.english, ['b']) = some "{{a}}!".toList ∧
        ((scope.snapshot choice).expand "{{a}}{{b}}".toList
          { pools := fun _ => {}, draws := .cycle [] }).1 = after.1 := by
  intro scope after
  have stored (raw : Text) (h : scope.Holds Package.entwined.pools raw) :
      (Template.read raw).Plain := by
    have all : ∀ c ∈ Package.entwined.catalogs, ∀ e ∈ c.2.entries.toList, ∀ raw ∈ e.2.texts,
        (Template.read raw).Plain := by decide +kernel
    obtain ⟨c, catalog, e, listed, among⟩ := Package.listed_of_holds h
    exact all c catalog e listed raw among
  have plain : (Template.read "{{a}}{{b}}".toList).Plain := by decide +kernel
  have sole : scope.Sole := Package.sole {} Package.entwined .german []
  obtain ⟨choice, -, -, still, pools⟩ :=
    expand_snapshot Package.standing_entwined.inRange_pools plain stored sole (.cycle [])
  have forward := (pools (.german, ['a'])).1 (by decide +kernel)
  have backward := (pools (.english, ['b'])).1 (by decide +kernel)
  refine ⟨by decide +kernel, by decide +kernel, by decide +kernel, choice, forward.trans ?_,
    backward.trans ?_, (still (fun _ => {}) (.cycle [])).1⟩
  · decide +kernel
  · decide +kernel

/-- A scope with one pool that stands under two keys. -/
def aliasedScope : Scope Unit Unit where
  store := some fun key _ => if key = ['a'] ∨ key = ['b'] then some (.pool ()) else none
  language := ()
  fields := []
  maxDepth := defaultMaxDepth
  tracing := false

/-- The pool of that scope. -/
def aliasedPool : Pool := { candidates := [['x'], ['y']] }

end Scope

namespace Package

/-- A German file with some entries in front of an English one with a text. -/
def fronted (german : List (Text × Entry)) : Package where
  directory := ['.']
  name := ['p']
  fallback := some .english
  catalogs := [(.german, ⟨"p_de.yml".toList, .german, .ofList german⟩),
    (.english, ⟨"p_en.yml".toList, .english, .ofList [(['k'], .text "hello".toList)]⟩)]

end Package

namespace Scope

/-- Not every store can be exchanged like this. A pool under two keys turns twice in one call, once
for each of them, so none of its candidates gives the text of the call. And an empty pool of a
package hides the fallback language, which is asked where the key is missing. -/
theorem expand_snapshot_fails :
    let template := "{{a}}{{b}}".toList
    let shared := aliasedScope.expand template { pools := fun _ => aliasedPool, draws := .cycle [] }
    let answer (german : List (Text × Entry)) := (({} : Resolver).expand Package.shelf
      (some (Package.fronted german)) (.cycle []) .german [] "{{k}}".toList).value
    (aliasedPool.InRange ∧ (Template.read template).Plain ∧
      (∀ raw, aliasedScope.Holds (fun _ => aliasedPool) raw → (Template.read raw).Plain) ∧
      shared.1 = "xy".toList ∧ shared.2.count (Event.turns ()) = 2 ∧
      ∀ choice : Unit → Option Text, aliasedPool.Offers (choice ()) →
        ((aliasedScope.snapshot choice).expand template
          { pools := fun _ => {}, draws := .cycle [] }).1 ≠ shared.1) ∧
    answer [(['k'], .pool {})] = ['k'] ∧ answer [] = "hello".toList := by
  intro template shared answer
  have stored (raw : Text) (h : aliasedScope.Holds (fun _ => aliasedPool) raw) :
      (Template.read raw).Plain := by
    obtain ⟨store, hs, key, found | ⟨place, -, candidate⟩⟩ := h
    · obtain rfl : _ = store := Option.some.inj hs
      dsimp only at found
      split_ifs at found
      cases found
    · have all : ∀ raw ∈ aliasedPool.candidates, (Template.read raw).Plain := by decide +kernel
      exact all raw candidate
  have other : ∀ picked ∈ aliasedPool.candidates,
      ((aliasedScope.snapshot fun _ => some picked).expand template
        { pools := fun _ => {}, draws := .cycle [] }).1 ≠ shared.1 := by decide +kernel
  refine ⟨⟨.inl (by decide), by decide +kernel, stored, by decide +kernel, by decide +kernel,
    fun choice offers => ?_⟩, by decide +kernel, by decide +kernel⟩
  cases picked : choice () with
  | none =>
    rw [picked] at offers
    cases offers
  | some candidate =>
    rw [picked] at offers
    obtain rfl : choice = fun _ => some candidate := funext fun _ => picked
    exact other candidate offers

end Scope

end Phrasebook
