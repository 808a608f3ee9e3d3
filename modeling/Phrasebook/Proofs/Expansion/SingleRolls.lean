import Phrasebook.Proofs.Expansion.Draws
import Phrasebook.Proofs.Expansion.Holes
import Phrasebook.Proofs.Expansion.Origins

/-!
# Holes alone turn a pool once

Where no hole is a choice, a key that stands for a pool is rolled at most once in a call: a second
roll would have to be on behalf of a condition (`rolls_le_one`). So a pool that stands under one key
is turned at most once, and then as the call has found it. `Run.Turned` is what all parts of such a
call keep, from any chain and run.
-/

namespace Phrasebook

variable {ι lang : Type}

/-- What a pool may yield: one of its candidates, or nothing if it has none. -/
def Pool.Offers (p : Pool) : Option Text → Prop
  | none => p.candidates = []
  | some picked => picked ∈ p.candidates

theorem Pool.Offers.eq_none {p : Pool} {picked : Option Text} (h : p.Offers picked)
    (empty : p.candidates = []) : picked = none := by
  cases picked with
  | none => rfl
  | some text =>
    have candidate : text ∈ p.candidates := h
    rw [empty] at candidate
    cases candidate

/-- The candidate under the cursor. -/
theorem Pool.offers_cursor {p : Pool} (h : p.InRange) : p.Offers p.candidates[p.cursor]? := by
  match picked : p.candidates[p.cursor]? with
  | some text => exact List.mem_of_getElem? picked
  | none =>
    change p.candidates = []
    refine Decidable.byContradiction fun filled => ?_
    have below := cursor_lt h filled
    have beyond := List.getElem?_eq_none_iff.1 picked
    omega

theorem Pool.offers_roll {p : Pool} (h : p.InRange) (shared : Draws) :
    p.Offers (p.roll shared).1 := by
  match picked : (p.roll shared).1 with
  | some text => exact mem_candidates_of_roll picked
  | none =>
    change p.candidates = []
    refine Decidable.byContradiction fun filled => ?_
    have found := roll_isSome h filled shared
    rw [picked] at found
    cases found

/-- A directive that chooses nothing, with its key in small letters. -/
def Directive.Plain : Directive → Prop
  | .key name => Text.lower name = name
  | .nothing => True
  | .choose .. => False

instance : DecidablePred Directive.Plain
  | .key name => inferInstanceAs (Decidable (Text.lower name = name))
  | .nothing => .isTrue trivial
  | .choose .. => .isFalse id

/-- All holes of a template are plain. -/
def Template.Plain (t : Template) : Prop := ∀ raw ∈ t.keys, (Directive.read raw).Plain

instance (t : Template) : Decidable t.Plain :=
  inferInstanceAs (Decidable (∀ raw ∈ t.keys, (Directive.read raw).Plain))

namespace Event

variable [DecidableEq ι]

/-- A roll of a pool that yields something. -/
def turns (place : ι) : Event ι lang → Bool
  | .roll _ p picked => p == place && picked.isSome
  | _ => false

theorem eq_roll_of_turns {place : ι} {e : Event ι lang} (h : e.turns place = true) :
    ∃ key text, e = .roll key place (some text) := by
  match e with
  | .roll key p none => simp [turns] at h
  | .roll key p (some text) =>
    obtain rfl : p = place := by simpa [turns] using h
    exact ⟨key, text, rfl⟩

omit [DecidableEq ι] in
/-- An event of a call without conditions: a key that is rolled is in small letters and bound to
the pool, which yields what it may. -/
def Proper (scope : Scope ι lang) (pools : ι → Pool) : Event ι lang → Prop
  | .note (.decided ..) => False
  | .roll key place picked => Text.lower key = key ∧
    (∃ store ∈ scope.store, store key scope.language = some (.pool place)) ∧
    (pools place).Offers picked
  | _ => True

end Event

/-- No condition was evaluated, and a pool that has yielded once was rolled as it stood at the
start of the call; one that has yielded nothing stands as it did. -/
structure Run.Turned [DecidableEq ι] (scope : Scope ι lang) (pools : ι → Pool) (run : Run ι lang) :
    Prop where
  proper : ∀ e ∈ run.trail, e.Proper scope pools
  inRange : ∀ place, (run.pools place).InRange
  candidates : ∀ place, (run.pools place).candidates = (pools place).candidates
  unturned : ∀ place, run.count (Event.turns place) = 0 → run.pools place = pools place
  once : ∀ place, run.count (Event.turns place) = 1 → ∃ shared,
    run.pools place = ((pools place).roll shared).2.1 ∧
      ∀ key picked, .roll key place (some picked) ∈ run.trail →
        ((pools place).roll shared).1 = some picked

namespace Run.Turned

variable [DecidableEq ι] {scope : Scope ι lang} {pools : ι → Pool} {run : Run ι lang}

/-- An event that turns no pool changes nothing. -/
theorem push (h : run.Turned scope pools) {e : Event ι lang} {after : Run ι lang}
    (trail : after.trail = e :: run.trail) (still : after.pools = run.pools)
    (proper : e.Proper scope pools) (idle : ∀ place, e.turns place = false) :
    after.Turned scope pools := by
  have count (place : ι) : after.count (Event.turns place) = run.count (Event.turns place) := by
    rw [Run.count, trail]
    exact List.countP_cons_of_neg (by simp [idle])
  refine ⟨?_, ?_, ?_, ?_, ?_⟩
  · rw [trail]
    exact List.forall_mem_cons.2 ⟨proper, h.proper⟩
  · rw [still]
    exact h.inRange
  · rw [still]
    exact h.candidates
  · intro place never
    rw [still]
    exact h.unturned place (count place ▸ never)
  · intro place one
    obtain ⟨shared, pool, picks⟩ := h.once place (count place ▸ one)
    refine ⟨shared, still ▸ pool, fun key picked rolled => picks key picked ?_⟩
    rw [trail] at rolled
    refine (List.mem_cons.1 rolled).resolve_left fun same => ?_
    have turns : e.turns place = true := by simp [← same, Event.turns]
    rw [idle place] at turns
    cases turns

theorem noted (h : run.Turned scope pools) {n : Note}
    (proper : (Event.note n : Event ι lang).Proper scope pools) :
    Run.Turned scope pools { run with trail := .note n :: run.trail } :=
  h.push (e := .note n) rfl rfl proper fun _ => rfl

theorem said (h : run.Turned scope pools) (tracing : Bool) {n : Note}
    (proper : (Event.note n : Event ι lang).Proper scope pools) :
    (Step.said tracing n run).Turned scope pools := by
  unfold Step.said
  split
  · exact h
  · exact h.noted proper

theorem memoize (h : run.Turned scope pools) (key value : Text) :
    Run.Turned scope pools { run with memo := (key, value) :: run.memo } :=
  ⟨h.proper, h.inRange, h.candidates, h.unturned, h.once⟩

theorem asked (h : run.Turned scope pools) (language : lang) (chain : List Text) (key : Text) :
    (Step.asked language chain key run).Turned scope pools :=
  h.push (e := .lookup key language chain) rfl rfl trivial fun _ => rfl

/-- A pool that is rolled for a key that is bound to it yields what it may. If it yields nothing
it stands as before, else it has turned once more than before. -/
theorem rolled (h : run.Turned scope pools) {store : Store ι lang} (hs : scope.store = some store)
    {key : Text} (small : Text.lower key = key) {place : ι}
    (found : store key scope.language = some (.pool place)) :
    (Step.rolled key place run).Turned scope pools := by
  have offers : (pools place).Offers ((run.pools place).roll run.draws).1 := by
    have offered := Pool.offers_roll (h.inRange place) run.draws
    unfold Pool.Offers at offered ⊢
    rwa [h.candidates place] at offered
  have proper : (Event.roll key place ((run.pools place).roll run.draws).1).Proper scope pools :=
    ⟨small, ⟨store, hs, found⟩, offers⟩
  match picked : ((run.pools place).roll run.draws).1 with
  | none =>
    rw [picked] at offers proper
    have empty : (run.pools place).candidates = [] := (h.candidates place).trans offers
    have still : (Step.rolled key place run).pools = run.pools := by
      funext p
      by_cases same : p = place
      · simp [Step.rolled, same, Pool.roll_empty empty]
      · exact if_neg same
    refine h.push ?_ still proper fun p => by simp [Event.turns]
    rw [← picked]
    rfl
  | some text =>
    have count (p : ι) : (Step.rolled key place run).count (Event.turns p) =
        run.count (Event.turns p) + if place = p then 1 else 0 := by
      rw [Step.count_rolled, picked]
      simp [Event.turns]
    have trail : (Step.rolled key place run).trail = .roll key place (some text) :: run.trail := by
      rw [← picked]
      rfl
    have turned : (Step.rolled key place run).pools place =
        ((run.pools place).roll run.draws).2.1 := if_pos rfl
    have still (p : ι) (other : place ≠ p) : (Step.rolled key place run).pools p = run.pools p :=
      if_neg (Ne.symm other)
    refine ⟨?_, fun p => ?_, fun p => ?_, fun p never => ?_, fun p one => ?_⟩
    · exact List.forall_mem_cons.2 ⟨proper, h.proper⟩
    · by_cases here : place = p
      · rw [← here, turned]
        exact Pool.inRange_roll (h.inRange place) run.draws
      · rw [still p here]
        exact h.inRange p
    · exact (Scope.candidates_rolled key place p run).trans (h.candidates p)
    · rw [count] at never
      by_cases here : place = p
      · simp [here] at never
      · rw [still p here]
        exact h.unturned p (Nat.eq_zero_of_add_eq_zero_right never)
    · rw [count] at one
      by_cases here : place = p
      · subst here
        have before : run.count (Event.turns place) = 0 := by simpa using one
        have found := h.unturned place before
        rw [found] at picked
        rw [turned, found]
        refine ⟨run.draws, rfl, fun name picked' rolled => ?_⟩
        rw [trail] at rolled
        rcases List.mem_cons.1 rolled with same | earlier
        · obtain ⟨-, -, same⟩ := Event.roll.inj same
          rw [picked, same]
        · have silent := List.countP_eq_zero.1 before _ earlier
          simp [Event.turns] at silent
      · obtain ⟨shared, pool, picks⟩ := h.once p (by simpa [here] using one)
        refine ⟨shared, (still p here).trans pool, fun name picked' rolled => picks name picked' ?_⟩
        rw [trail] at rolled
        refine (List.mem_cons.1 rolled).resolve_left fun same => ?_
        exact here (Event.roll.inj same).2.1.symm

end Run.Turned

namespace Scope

variable [DecidableEq ι] {scope : Scope ι lang} {pools : ι → Pool} {run : Run ι lang}

/-- Actions under which pools go on turning as they may. -/
def turning (scope : Scope ι lang) (pools : ι → Pool) : Simulation (Step ι lang) (Step ι lang) :=
  .ofKept (fun act => ∀ run : Run ι lang, run.Turned scope pools →
      (act run).2.Turned scope pools)
    (fun _ _ h => h) fun hx hf run h => hf _ _ (hx run h)

theorem turning_say {n : Note} (proper : (Event.note n : Event ι lang).Proper scope pools) :
    (scope.turning pools).Keeps (Step.say scope.tracing n) := by
  intro run h
  rw [Step.say_run]
  exact h.said scope.tracing proper

/-- A template without choices asks for keys in small letters and judges nothing. -/
theorem turning_fillHoles {ask : Text → Step ι lang (Option Text)}
    (hask : ∀ name, Text.lower name = name → (scope.turning pools).Keeps (ask name))
    {t : Template} (plain : t.Plain) : (scope.turning pools).Keeps (scope.fillHoles ask t) := by
  let R := scope.turning pools
  induction t with
  | ends lead => exact R.pure lead
  | unclosed lead tail => exact R.pure lead
  | hole lead raw rest ih =>
    obtain ⟨first, others⟩ := List.forall_mem_cons.1 plain
    have filled : R.Keeps (scope.fill ask raw) := by
      rw [fill_eq]
      cases directive : Directive.read raw with
      | key key =>
        rw [directive] at first
        exact Simulation.fillKey R rfl (fun _ h => h) (fun value _ h => h.memoize key value)
          (fun _ => hask key first) (turning_say trivial)
      | nothing => exact R.pure []
      | choose =>
        rw [directive] at first
        exact first.elim
    exact R.bind filled fun value => R.bind (ih others) fun more => R.pure (lead ++ value ++ more)

/-- What is fetched for a key in small letters is held by the store. -/
theorem turned_fetch (h : run.Turned scope pools) {store : Store ι lang}
    (hs : scope.store = some store) (chain : List Text) {key : Text}
    (small : Text.lower key = key) :
    let fetched := Step.fetch store scope.language chain key run
    fetched.2.Turned scope pools ∧ ∀ raw, fetched.1 = some raw → scope.Holds pools raw := by
  intro fetched
  have asked := h.asked scope.language chain key
  match found : store key scope.language with
  | none =>
    have missing : fetched = (none, _) := Step.fetch_missing found chain run
    rw [missing]
    exact ⟨asked, fun raw h => nomatch h⟩
  | some (.text text) =>
    have held : fetched = (some text, _) := Step.fetch_text found chain run
    rw [held]
    refine ⟨asked, fun raw h => ?_⟩
    obtain rfl := Option.some.inj h
    exact ⟨store, hs, key, .inl found⟩
  | some (.pool place) =>
    have rolled : fetched = _ := Step.fetch_pool found chain run
    rw [Step.roll_run] at rolled
    rw [rolled]
    refine ⟨asked.rolled hs small found, fun raw picked => ?_⟩
    have candidate : raw ∈ (pools place).candidates :=
      asked.candidates place ▸ Pool.mem_candidates_of_roll picked
    exact ⟨store, hs, key, .inr ⟨place, found, candidate⟩⟩

/-- Stored texts without choices are expanded below any chain. The induction is on the room. -/
theorem turning_stored (plain : ∀ raw, scope.Holds pools raw → (Template.read raw).Plain)
    (room : Nat) (chain : List Text) {key : Text} (small : Text.lower key = key) :
    (scope.turning pools).Keeps (scope.stored room chain key) := by
  intro run h
  cases hs : scope.store with
  | none => rwa [stored_storeless hs]
  | some store =>
  induction room generalizing chain key run with
  | zero =>
    by_cases here : Text.lower key ∈ chain
    · rw [stored_cyclic hs here]
      exact h.noted (n := .cyclic key chain) trivial
    · rw [stored_tooDeep hs here]
      exact h.noted (n := .tooDeep scope.maxDepth key) trivial
  | succ room ih =>
    by_cases here : Text.lower key ∈ chain
    · rw [stored_cyclic hs here]
      exact h.noted (n := .cyclic key chain) trivial
    · obtain ⟨turned, held⟩ := turned_fetch h hs chain small
      match hfetch : Step.fetch store scope.language chain key run with
      | (none, after) =>
        rw [hfetch] at turned
        rwa [stored_unfetched hs here hfetch]
      | (some raw, after) =>
        rw [hfetch] at turned held
        have below : (scope.turning pools).Keeps
            (scope.fillHoles (scope.stored room (chain ++ [Text.lower key])) (Template.read raw)) :=
          turning_fillHoles (fun name small' run' h' => ih _ small' run' h')
            (plain raw (held raw rfl))
        have filled := below after turned
        match hfill : scope.fillHoles (scope.stored room (chain ++ [Text.lower key]))
            (Template.read raw) after with
        | (value, after') =>
          rw [hfill] at filled
          rw [stored_fetched hs here hfetch hfill]
          exact filled.said scope.tracing trivial

/-- No pool stands under two keys, up to case. -/
def Sole (scope : Scope ι lang) : Prop :=
  ∀ store ∈ scope.store, ∀ place key key', store key scope.language = some (.pool place) →
    store key' scope.language = some (.pool place) → Text.lower key = Text.lower key'

section Expand

variable {template : Text} (inRange : ∀ place, (pools place).InRange)
  (plain : (Template.read template).Plain)
  (stored : ∀ raw, scope.Holds pools raw → (Template.read raw).Plain) (draws : Draws)

include inRange plain stored

/-- Pools turn as they may while a template without choices is expanded. -/
theorem turned_expand : (scope.serve (.expand template) { pools, draws }).2.Turned scope pools := by
  have start : Run.Turned scope pools { pools, draws } :=
    ⟨List.forall_mem_nil _, inRange, fun _ => rfl, fun _ _ => rfl, fun _ one => nomatch one⟩
  exact turning_fillHoles (fun name small => turning_stored stored _ [] small) plain _ start

/-- Holes alone roll a pool with candidates at most once under a key: a condition on the key would
be on the trail of the call that traces. -/
theorem rolls_le_one {store : Store ι lang} (hs : scope.store = some store) {key : Text} {place : ι}
    (found : store key scope.language = some (.pool place))
    (filled : (pools place).candidates ≠ []) :
    (scope.serve (.expand template) { pools, draws }).2.count (Event.rolls key) ≤ 1 := by
  have other : Call.expand template ≠ .expandKey key := nofun
  by_cases bound : (Field.find? key scope.fields).isSome
  · exact Nat.le_trans (serve_unrolled bound other _) (Nat.zero_le 1)
  · have field : Field.find? key scope.fields = none := by simpa using bound
    let traced := ((scope.withTracing true).serve (.expand template) { pools, draws }).2
    have books := (serve_rolls hs found field other pools draws).2 (inRange place) filled
    have stored' : ∀ raw, (scope.withTracing true).Holds pools raw → (Template.read raw).Plain :=
      stored
    have turned : traced.Turned (scope.withTracing true) pools :=
      turned_expand inRange plain stored' draws
    have unasked : traced.count (Event.asks key false) = 0 := by
      refine List.countP_eq_zero.2 fun e he => ?_
      have proper := turned.proper e he
      match e with
      | .lookup .. | .roll .. => exact nofun
      | .note (.decided ..) => exact proper.elim
      | .note (.cyclic ..) | .note (.tooDeep ..) | .note (.unresolved _) | .note (.resolved ..) =>
        exact nofun
    rw [books, unasked, Nat.add_zero, Run.held]
    split <;> omega

/-- A pool that stands under one key turns at most once. -/
theorem turns_le_one (sole : scope.Sole) (place : ι) :
    (scope.serve (.expand template) { pools, draws }).2.count (Event.turns place) ≤ 1 := by
  have turned := turned_expand inRange plain stored draws
  by_cases hit : ∃ e ∈ (scope.serve (.expand template) { pools, draws }).2.trail,
      e.turns place = true
  · obtain ⟨e, he, turns⟩ := hit
    obtain ⟨key, text, rfl⟩ := Event.eq_roll_of_turns turns
    obtain ⟨small, ⟨store, hs, found⟩, candidate⟩ := turned.proper _ he
    -- Whatever turns the pool is a roll under this key.
    refine Nat.le_trans (List.countP_mono_left fun e he turns => ?_)
      (rolls_le_one inRange plain stored draws hs found (List.ne_nil_of_mem candidate))
    obtain ⟨key', text', rfl⟩ := Event.eq_roll_of_turns turns
    obtain ⟨small', ⟨store', hs', found'⟩, -⟩ := turned.proper _ he
    obtain rfl : store = store' := Option.some.inj (hs.symm.trans hs')
    have same := sole store hs place key' key found' found
    rw [small, small'] at same
    simp [Event.rolls, same]
  · have never : Run.count (Event.turns place) _ = 0 :=
      List.countP_eq_zero.2 fun e he turns => hit ⟨e, he, turns⟩
    exact Nat.le_trans (Nat.le_of_eq never) (Nat.zero_le 1)

end Expand

end Scope

end Phrasebook
