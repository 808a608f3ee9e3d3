import Phrasebook.Proofs.Expansion.Memo
import Phrasebook.Proofs.Expansion.Overrides

/-!
# Two fillings of one key

What a hole is filled with depends on the chain through the guards alone, and on the memo through
what earlier holes left there. So if one run has filled a hole from the store and no guard gave a
warning meanwhile, and another run fills a hole with the same key without a warning, both come to
the same text, wherever the two holes stand (`Simulation.according`). What the second run has in its
memo by then it may have from holes that the first run never met, and the other way round. It is
enough that the two memos do not contradict each other (`Scope.Fits`).

That a run has an entry of its memo from a hole that the store answered for is kept in its book
(`Watched.Backed`).
-/

namespace Phrasebook

variable {ι lang : Type}

namespace Run

/-- How many warnings were given. -/
def warnings (run : Run ι lang) : Nat := run.count Event.isWarning

/-- A run goes on: trail and memo grow. -/
structure Precedes (run after : Run ι lang) : Prop where
  trail : run.trail <:+ after.trail
  memo : run.memo <:+ after.memo

namespace Precedes

variable {run mid after : Run ι lang}

theorem refl (run : Run ι lang) : run.Precedes run := ⟨List.suffix_refl _, List.suffix_refl _⟩

theorem trans (first : run.Precedes mid) (second : mid.Precedes after) : run.Precedes after :=
  ⟨first.trail.trans second.trail, first.memo.trans second.memo⟩

theorem warnings_le (h : run.Precedes after) : run.warnings ≤ after.warnings :=
  h.trail.sublist.countP_le

theorem memoize (run : Run ι lang) (key value : Text) :
    run.Precedes { run with memo := (key, value) :: run.memo } :=
  ⟨List.suffix_refl _, List.suffix_cons _ _⟩

/-- A step that leaves the memo alone has only a trail to prolong. -/
theorem of_memo_eq (trail : run.trail <:+ after.trail) (memo : after.memo = run.memo) :
    run.Precedes after :=
  ⟨trail, memo ▸ List.suffix_refl _⟩

theorem said (tracing : Bool) (n : Note) (run : Run ι lang) :
    run.Precedes (Step.said tracing n run) :=
  .of_memo_eq (Step.trail_suffix_said tracing n run) (Step.memo_said tracing n run)

end Precedes

theorem warnings_said {n : Note} (h : n.isTrace = true) (tracing : Bool) (run : Run ι lang) :
    (Step.said tracing n run).warnings = run.warnings :=
  Step.count_said (by simp [Event.isWarning, h]) tracing run

theorem warnings_noted {n : Note} (h : n.isTrace = false) (run : Run ι lang) :
    { run with trail := .note n :: run.trail }.warnings = run.warnings + 1 :=
  List.countP_cons_of_pos (by simp [Event.isWarning, h])

end Run

/-- No guard gave a warning while the hole was filled. -/
def Filling.Quiet (p : Filling ι lang) : Prop := p.after.warnings = p.before.warnings

/-- A watched run goes on: trail, memo and book grow. -/
structure Watched.Precedes (w after : Watched ι lang) : Prop where
  run : w.run.Precedes after.run
  filled : w.filled <:+ after.filled

theorem Watched.Precedes.refl (w : Watched ι lang) : w.Precedes w := ⟨.refl _, List.suffix_refl _⟩

theorem Watched.Precedes.trans {w mid after : Watched ι lang} (first : w.Precedes mid)
    (second : mid.Precedes after) : w.Precedes after :=
  ⟨first.run.trans second.run, first.filled.trans second.filled⟩

theorem Watched.Precedes.enter {w after : Watched ι lang} (h : w.Precedes after) (key text : Text)
    (before : Run ι lang) : w.Precedes (after.enter key text before) :=
  ⟨h.run, h.filled.trans (List.suffix_cons _ _)⟩

section Backing

variable [DecidableEq ι] {scope : Scope ι lang}

/-- The hole got a value from the store and left it in the memo. -/
def Filling.Backs (scope : Scope ι lang) (p : Filling ι lang) (value : Text) : Prop :=
  ∃ room chain after, scope.stored room chain p.key p.before = (some value, after) ∧
    p.after = { after with memo := (p.key, value) :: after.memo }

/-- An entry of the memo without a field comes from a hole of the book that the store answered
for. -/
def Watched.Backed (scope : Scope ι lang) (w : Watched ι lang) : Prop :=
  ∀ key value, (key, value) ∈ w.run.memo → Field.find? key scope.fields = none →
    ∃ p ∈ w.filled, p.key = key ∧ p.Backs scope value

/-- Actions that go on and leave every entry of the memo backed. -/
def Simulation.backing (scope : Scope ι lang) : Simulation (Watch ι lang) (Watch ι lang) :=
  .ofKept
    (fun act => ∀ w, w.Precedes (act w).2 ∧ (w.Backed scope → (act w).2.Backed scope))
    (fun _ w => ⟨.refl w, id⟩) fun hx hf w =>
      have first := hx w
      have second := hf _ _
      ⟨first.1.trans second.1, fun backed => second.2 (first.2 backed)⟩

namespace Scope

/-- A step that leaves the memo alone leaves it backed. -/
theorem backing_watched {α : Type} {act : Step ι lang α}
    (h : ∀ run, run.Precedes (act run).2 ∧ (act run).2.memo = run.memo) :
    (Simulation.backing scope).Keeps act.watched := by
  intro w
  obtain ⟨longer, memo⟩ := h w.run
  refine ⟨⟨longer, List.suffix_refl _⟩, fun backed key value put => ?_⟩
  rw [Watch.watched_run] at put
  rw [memo] at put
  exact backed key value put

theorem backing_say (tracing : Bool) (n : Note) :
    (Simulation.backing scope).Keeps (Step.say tracing n).watched :=
  backing_watched fun run => by
    rw [Step.say_run]
    exact ⟨.said tracing n run, Step.memo_said tracing n run⟩

theorem backing_fetch (store : Store ι lang) (chain : List Text) (key : Text) :
    (Simulation.backing scope).Keeps (Step.fetch store scope.language chain key).watched := by
  refine backing_watched fun run => ?_
  have memo := memo_fetch store scope.language chain key run
  exact ⟨.of_memo_eq (trail_suffix_fetch store scope.language chain key run) memo, memo⟩

/-- A hole leaves a value in the memo that was there already, or that a field has, or that the
store has answered with. -/
theorem backing_watchKey {room : Nat} {chain : List Text}
    (hask : ∀ name, (Simulation.backing scope).Keeps (scope.watchStored room chain name))
    (key : Text) :
    (Simulation.backing scope).Keeps (scope.watchKey (scope.watchStored room chain) key) := by
  intro w
  -- What a hole enters is all that is new.
  have entered {mid : Watched ι lang} {value : Text} (longer : w.Precedes mid)
      (kept : w.Backed scope → mid.Backed scope)
      (new : w.Backed scope → Field.find? key scope.fields = none →
        ∃ p ∈ ((mid.memoize key value).enter key value w.run).filled,
          p.key = key ∧ p.Backs scope value) :
      w.Precedes ((mid.memoize key value).enter key value w.run) ∧
        (w.Backed scope → ((mid.memoize key value).enter key value w.run).Backed scope) := by
    have memoized : mid.Precedes (mid.memoize key value) := ⟨.memoize _ _ _, List.suffix_refl _⟩
    refine ⟨(longer.trans memoized).enter _ _ _, fun backed name text put free => ?_⟩
    rcases List.mem_cons.1 put with same | old
    · obtain ⟨rfl, rfl⟩ := Prod.mk.inj same
      exact new backed free
    · obtain ⟨p, hp, backs⟩ := kept backed name text old free
      exact ⟨p, List.mem_cons_of_mem _ hp, backs⟩
  cases held : w.run.memo.lookup key with
  | some value =>
    rw [watchKey_held held]
    refine entered (.refl w) id fun backed free => ?_
    obtain ⟨p, hp, backs⟩ := backed key value (mem_of_lookup held) free
    exact ⟨p, List.mem_cons_of_mem _ hp, backs⟩
  | none =>
    cases field : Field.find? key scope.fields with
    | some v =>
      rw [watchKey_field held field]
      refine entered (.refl w) id fun _ free => ?_
      rw [field] at free
      cases free
    | none =>
      obtain ⟨longer, kept⟩ := hask key w
      obtain ⟨answer, run⟩ := watching_stored scope room chain key w
      match asked : scope.watchStored room chain key w with
      | (some value, after) =>
        rw [asked] at longer kept answer run
        rw [watchKey_stored held field asked]
        have asked' : scope.stored room chain key w.run = (some value, after.run) :=
          Prod.ext answer.symm run.symm
        exact entered longer kept fun _ _ =>
          ⟨_, List.mem_cons_self, rfl, room, chain, after.run, asked', rfl⟩
      | (none, after) =>
        rw [asked] at longer kept
        rw [watchKey_missing held field asked]
        have said : after.Precedes
            { after with run := Step.said scope.tracing (.unresolved key) after.run } :=
          ⟨.said _ _ _, List.suffix_refl _⟩
        refine ⟨(longer.trans said).enter _ _ _, fun backed name text put free => ?_⟩
        change (name, text) ∈ (Step.said scope.tracing (.unresolved key) after.run).memo at put
        rw [Step.memo_said] at put
        obtain ⟨p, hp, backs⟩ := kept backed name text put free
        exact ⟨p, List.mem_cons_of_mem _ hp, backs⟩

theorem backing_watchCondition {ask : Text → Watch ι lang (Option Text)}
    (hask : ∀ name, (Simulation.backing scope).Keeps (ask name)) (expression : Text) :
    (Simulation.backing scope).Keeps (scope.watchCondition ask expression) := by
  apply Simulation.evaluate
  intro condition
  exact Simulation.evaluateAtom _ (fun name _ => hask name)
    (fun _ _ => backing_say scope.tracing _) condition

theorem backing_watchHoles {room : Nat} {chain : List Text}
    (hask : ∀ name, (Simulation.backing scope).Keeps (scope.watchStored room chain name))
    (t : Template) :
    (Simulation.backing scope).Keeps (scope.watchHoles (scope.watchStored room chain) t) :=
  Simulation.fillWith _ (backing_watchCondition hask) (backing_watchKey hask) t

/-- The memo is backed on every level. The induction is on the room that is left. -/
theorem backing_watchStored (scope : Scope ι lang) (room : Nat) (chain : List Text) (key : Text) :
    (Simulation.backing scope).Keeps (scope.watchStored room chain key) := by
  let R := Simulation.backing scope
  induction room generalizing chain key with
  | zero =>
    unfold watchStored
    split
    · exact R.pure none
    · split
      · exact R.bind (backing_say _ _) fun _ => R.pure none
      · exact R.bind (backing_say _ _) fun _ => R.pure none
  | succ room ih =>
    unfold watchStored
    split
    · exact R.pure none
    · next store _ =>
      split
      · exact R.bind (backing_say _ _) fun _ => R.pure none
      · refine R.bind (backing_fetch store chain key) fun raw => ?_
        cases raw with
        | none => exact R.pure none
        | some raw =>
          refine R.bind (backing_watchHoles (ih _) (Template.read raw)) fun value => ?_
          exact R.bind (backing_say _ _) fun _ => R.pure (some value)

/-- A key that is expanded without a warning is not refused. -/
theorem unrefused_of_quiet {store : Store ι lang} (hs : scope.store = some store) {room : Nat}
    {chain : List Text} {key : Text} {run : Run ι lang}
    (quiet : (scope.stored room chain key run).2.warnings = run.warnings) :
    Text.lower key ∉ chain ∧ ∃ below, room = below + 1 := by
  by_cases here : Text.lower key ∈ chain
  · rw [stored_cyclic hs here, Run.warnings_noted rfl] at quiet
    omega
  · cases room with
    | zero =>
      rw [stored_tooDeep hs here, Run.warnings_noted rfl] at quiet
      omega
    | succ below => exact ⟨here, below, rfl⟩

/-- Only a key that is stored has a value. -/
theorem isSome_of_stored {room : Nat} {chain : List Text} {key value : Text} {run : Run ι lang}
    (h : (scope.stored room chain key run).1 = some value) :
    ∃ store ∈ scope.store, (store key scope.language).isSome := by
  cases hs : scope.store with
  | none =>
    rw [stored_storeless hs] at h
    cases h
  | some store =>
    refine ⟨store, rfl, ?_⟩
    by_cases here : Text.lower key ∈ chain
    · rw [stored_cyclic hs here] at h
      cases h
    · cases room with
      | zero =>
        rw [stored_tooDeep hs here] at h
        cases h
      | succ below =>
        cases found : store key scope.language with
        | some held => rfl
        | none =>
          rw [stored_unfetched hs here (Step.fetch_missing found chain run)] at h
          cases h

/-- A key without a value that is not refused is not stored, where there are no pools. -/
theorem missing_of_stored
    (poolless : ∀ store ∈ scope.store, ∀ key place, store key scope.language ≠ some (.pool place))
    {room : Nat} {chain : List Text} {key : Text} {run : Run ι lang}
    (h : (scope.stored room chain key run).1 = none)
    (quiet : (scope.stored room chain key run).2.warnings = run.warnings) :
    ∀ store ∈ scope.store, store key scope.language = none := by
  intro store hs
  obtain ⟨here, below, rfl⟩ := unrefused_of_quiet hs quiet
  match found : store key scope.language with
  | none => rfl
  | some (.pool place) => exact absurd found (poolless store hs key place)
  | some (.text raw) =>
    have fetched := Step.fetch_text found chain run
    match filled : scope.fillHoles (scope.stored below (chain ++ [Text.lower key]))
        (Template.read raw) (Step.asked scope.language chain key run) with
    | (value, after) =>
      rw [stored_fetched hs here fetched filled] at h
      cases h

end Scope

end Backing

section Agreement

variable {scope : Scope ι lang} {memo held mid held' : List (Text × Text)}

/-- A memo does not contradict another, and holds texts for fields and stored keys only. -/
structure Scope.Fits (scope : Scope ι lang) (memo held : List (Text × Text)) : Prop where
  agree : ∀ key value value', (key, value) ∈ held → (key, value') ∈ memo → value' = value
  stored : ∀ key value, (key, value) ∈ held → Field.find? key scope.fields = none →
    ∃ store ∈ scope.store, (store key scope.language).isSome

/-- A memo that fits to another grows by what that one holds already. -/
structure Scope.Grows (scope : Scope ι lang) (memo held held' : List (Text × Text)) : Prop where
  fits : scope.Fits memo held'
  same : ∀ key, (held'.lookup key).or (memo.lookup key) = (held.lookup key).or (memo.lookup key)

namespace Scope

/-- In a memo that is settled an entry is found under its key. -/
theorem lookup_of_mem (settled : Settled scope.fields memo) {key value : Text}
    (put : (key, value) ∈ memo) : memo.lookup key = some value := by
  cases found : memo.lookup key with
  | none => exact absurd put (lookup_eq_none_iff.1 found value)
  | some value' => rw [settled.once key value' value (mem_of_lookup found) put]

theorem Fits.lookup_or (fits : scope.Fits memo held) (settled : Settled scope.fields memo)
    {key value : Text} (put : (key, value) ∈ memo) :
    (held.lookup key).or (memo.lookup key) = some value := by
  cases found : held.lookup key with
  | none => exact lookup_of_mem settled put
  | some value' => rw [fits.agree key value' value (mem_of_lookup found) put]; rfl

theorem Grows.refl (fits : scope.Fits memo held) : scope.Grows memo held held :=
  ⟨fits, fun _ => rfl⟩

theorem Grows.trans (first : scope.Grows memo held mid) (second : scope.Grows memo mid held') :
    scope.Grows memo held held' :=
  ⟨second.fits, fun key => (second.same key).trans (first.same key)⟩

theorem Fits.memoize (fits : scope.Fits memo held) {key value : Text}
    (agree : ∀ value', (key, value') ∈ memo → value' = value)
    (stored : Field.find? key scope.fields = none →
      ∃ store ∈ scope.store, (store key scope.language).isSome) :
    scope.Fits memo ((key, value) :: held) := by
  constructor
  · intro name text text' put put'
    rcases List.mem_cons.1 put with same | old
    · obtain ⟨rfl, rfl⟩ := Prod.mk.inj same
      exact agree text' put'
    · exact fits.agree name text text' old put'
  · intro name text put free
    rcases List.mem_cons.1 put with same | old
    · obtain ⟨rfl, rfl⟩ := Prod.mk.inj same
      exact stored free
    · exact fits.stored name text old free

/-- A text may be put into a memo that one of the two holds for the key. -/
theorem Grows.memoize (grows : scope.Grows memo held mid) (settled : Settled scope.fields memo)
    {key value : Text} (found : (mid.lookup key).or (memo.lookup key) = some value)
    (stored : Field.find? key scope.fields = none →
      ∃ store ∈ scope.store, (store key scope.language).isSome) :
    scope.Grows memo held ((key, value) :: mid) := by
  refine ⟨grows.fits.memoize (fun value' put => ?_) stored, fun name => ?_⟩
  · exact Option.some.inj ((grows.fits.lookup_or settled put).symm.trans found)
  · rw [← grows.same name]
    by_cases same : name = key
    · subst same
      rw [List.lookup_cons_self, found]
      rfl
    · rw [List.lookup_cons, beq_eq_false_iff_ne.2 same]

end Scope

end Agreement

/-- A watched run goes as a run does, if neither warns, that one puts nothing into its memo that a
given memo does not hold, and the watched run enters nothing that a given book does not hold. -/
def Simulation.according (scope : Scope ι lang) (memo : List (Text × Text))
    (book : List (Filling ι lang)) : Simulation (Step ι lang) (Watch ι lang) where
  Rel x y := (∀ run : Run ι lang, run.Precedes (x run).2) ∧
    (∀ w : Watched ι lang, w.Precedes (y w).2) ∧
    ∀ run w, (x run).2.warnings = run.warnings → (x run).2.memo <:+ memo →
      (y w).2.run.warnings = w.run.warnings → (y w).2.filled <:+ book →
      scope.Fits memo w.run.memo →
        (x run).1 = (y w).1 ∧ scope.Grows memo w.run.memo (y w).2.run.memo
  pure a := ⟨.refl, .refl, fun _ _ _ _ _ _ fits => ⟨rfl, .refl fits⟩⟩
  bind {_ _ x y f g} hx hf := by
    refine ⟨fun run => (hx.1 run).trans ((hf _).1 _), fun w => (hx.2.1 w).trans ((hf _).2.1 _), ?_⟩
    intro run w quiet within quiet' entered fits
    rw [Step.bind_run] at quiet within ⊢
    rw [Watch.bind_run] at quiet' entered ⊢
    have first := hx.1 run
    have later := (hf (x run).1).1 (x run).2
    have first' := hx.2.1 w
    have later' := (hf (y w).1).2.1 (y w).2
    have least := first.warnings_le
    have most := later.warnings_le
    have least' := first'.run.warnings_le
    have most' := later'.run.warnings_le
    have silent : (g (y w).1 (y w).2).2.run.warnings = (y w).2.run.warnings := by omega
    obtain ⟨answer, grows⟩ := hx.2.2 run w (by omega) (later.memo.trans within) (by omega)
      (later'.filled.trans entered) fits
    rw [← answer] at silent entered ⊢
    obtain ⟨answer', grows'⟩ := (hf (x run).1).2.2 (x run).2 (y w).2 (by omega) within silent
      entered grows.fits
    exact ⟨answer', grows.trans grows'⟩

namespace Scope

variable {scope : Scope ι lang} {memo : List (Text × Text)} {book : List (Filling ι lang)}

theorem according_say (tracing : Bool) (n n' : Note) :
    (Simulation.according scope memo book).Rel (Step.say tracing n)
      (Step.say tracing n').watched := by
  refine ⟨fun run => ?_, fun w => ?_, fun run w _ _ _ _ fits => ?_⟩
  · rw [Step.say_run]
    exact .said tracing n run
  · rw [Watch.watched_run, Step.say_run]
    exact ⟨.said tracing n' w.run, List.suffix_refl _⟩
  · rw [Watch.watched_run, Step.say_run, Step.say_run, Step.memo_said]
    exact ⟨rfl, .refl fits⟩

variable [DecidableEq ι]

/-- The store gives the key a value without a warning, in a run that puts nothing into its memo that
a given memo does not hold. -/
def Shown (scope : Scope ι lang) (memo : List (Text × Text)) (key value : Text) : Prop :=
  ∃ room chain before, (scope.stored room chain key before).1 = some value ∧
    (scope.stored room chain key before).2.warnings = before.warnings ∧
    (scope.stored room chain key before).2.memo <:+ memo

/-- A memo and a book meet well: there are no pools, and where the memo holds a text for the key of
a hole in the book, that text was shown and the hole was filled without a warning. -/
structure Meets (scope : Scope ι lang) (memo : List (Text × Text)) (book : List (Filling ι lang)) :
    Prop where
  poolless : ∀ store ∈ scope.store, ∀ key place, store key scope.language ≠ some (.pool place)
  settled : Settled scope.fields memo
  shown : ∀ p ∈ book, ∀ value, (p.key, value) ∈ memo → Field.find? p.key scope.fields = none →
    scope.Shown memo p.key value ∧ p.Quiet

theorem precedes_stored (scope : Scope ι lang) (room : Nat) (chain : List Text) (key : Text)
    (run : Run ι lang) : run.Precedes (scope.stored room chain key run).2 := by
  rw [← (watching_stored scope room chain key { run }).2]
  exact (backing_watchStored scope room chain key { run }).1.run

theorem precedes_fillKey (scope : Scope ι lang) (room : Nat) (chain : List Text) (key : Text)
    (run : Run ι lang) : run.Precedes (scope.fillKey (scope.stored room chain) key run).2 := by
  rw [← (watching_key (watching_stored scope room chain) key { run }).2]
  exact (backing_watchKey (backing_watchStored scope room chain) key { run }).1.run

theorem according_fetch (meets : scope.Meets memo book) {store : Store ι lang}
    (hs : scope.store = some store) (chain chain' : List Text) (key : Text) :
    (Simulation.according scope memo book).Rel (Step.fetch store scope.language chain key)
      (Step.fetch store scope.language chain' key).watched := by
  have longer (chain : List Text) (run : Run ι lang) :
      run.Precedes (Step.fetch store scope.language chain key run).2 :=
    .of_memo_eq (trail_suffix_fetch store scope.language chain key run)
      (memo_fetch store scope.language chain key run)
  refine ⟨longer chain, fun w => ⟨longer chain' w.run, List.suffix_refl _⟩, ?_⟩
  intro run w _ _ _ _ fits
  rw [Watch.watched_run, memo_fetch]
  refine ⟨?_, .refl fits⟩
  match found : store key scope.language with
  | none => rw [Step.fetch_missing found, Step.fetch_missing found]
  | some (.text raw) => rw [Step.fetch_text found, Step.fetch_text found]
  | some (.pool place) => exact absurd found (meets.poolless store hs key place)

section Keys

variable {room : Nat} {chain : List Text}
  (hask : ∀ room' chain' name, (Simulation.according scope memo book).Rel
    (scope.stored room' chain' name) (scope.watchStored room chain name))

section Filled

variable {key value : Text} {w : Watched ι lang}
  (quiet : (scope.watchKey (scope.watchStored room chain) key w).2.run.warnings = w.run.warnings)
  (entered : (scope.watchKey (scope.watchStored room chain) key w).2.filled <:+ book)
  (fits : scope.Fits memo w.run.memo)

include hask quiet entered fits

/-- A hole that asks the store gets the value that was shown for its key, and leaves nothing in the
memo that the given memo does not hold. -/
theorem grows_of_shown (settled : Settled scope.fields memo) (shown : scope.Shown memo key value)
    (put : (key, value) ∈ memo) (absent : w.run.memo.lookup key = none)
    (free : Field.find? key scope.fields = none) :
    (scope.watchKey (scope.watchStored room chain) key w).1 = value ∧
      scope.Grows memo w.run.memo
        (scope.watchKey (scope.watchStored room chain) key w).2.run.memo := by
  obtain ⟨room', chain', before, answer, silent, within⟩ := shown
  have agrees := (hask room' chain' key).2.2 before w silent within
  match asked : scope.watchStored room chain key w with
  | (some value', after) =>
    rw [watchKey_stored absent free asked] at quiet entered ⊢
    rw [asked] at agrees
    obtain ⟨same, grows⟩ := agrees quiet ((List.suffix_cons _ _).trans entered) fits
    obtain rfl : value = value' := Option.some.inj (answer.symm.trans same)
    exact ⟨rfl, grows.memoize settled (grows.fits.lookup_or settled put)
      fun _ => isSome_of_stored answer⟩
  | (none, after) =>
    rw [watchKey_missing absent free asked] at quiet entered
    rw [asked] at agrees
    have quiet' : after.run.warnings = w.run.warnings :=
      (Run.warnings_said rfl scope.tracing after.run).symm.trans quiet
    obtain ⟨same, -⟩ := agrees quiet' ((List.suffix_cons _ _).trans entered) fits
    cases answer.symm.trans same

/-- A hole gets the text that a given memo holds for its key, if that was shown wherever the hole
has to ask the store. -/
theorem grows_of_put (settled : Settled scope.fields memo) (put : (key, value) ∈ memo)
    (shown : Field.find? key scope.fields = none → scope.Shown memo key value) :
    (scope.watchKey (scope.watchStored room chain) key w).1 = value ∧
      scope.Grows memo w.run.memo
        (scope.watchKey (scope.watchStored room chain) key w).2.run.memo := by
  have found := fits.lookup_or settled put
  cases held : w.run.memo.lookup key with
  | some value' =>
    have put' := mem_of_lookup held
    obtain rfl := fits.agree key value' value put' put
    rw [watchKey_held held]
    exact ⟨rfl, (Grows.refl fits).memoize settled found (fits.stored key value put')⟩
  | none =>
    cases field : Field.find? key scope.fields with
    | some v =>
      obtain rfl := settled.overridden key v value field put
      rw [watchKey_field held field]
      refine ⟨rfl, (Grows.refl fits).memoize settled found fun free => ?_⟩
      rw [field] at free
      cases free
    | none => exact grows_of_shown hask quiet entered fits settled (shown field) put held field

/-- A hole for whose key the store has nothing gets the key. -/
theorem grows_of_missing (meets : scope.Meets memo book) {room' : Nat} {chain' : List Text}
    {before : Run ι lang} (free : Field.find? key scope.fields = none)
    (missed : (scope.stored room' chain' key before).1 = none)
    (silent : (scope.stored room' chain' key before).2.warnings = before.warnings)
    (within : (scope.stored room' chain' key before).2.memo <:+ memo) :
    (scope.watchKey (scope.watchStored room chain) key w).1 = key ∧
      scope.Grows memo w.run.memo
        (scope.watchKey (scope.watchStored room chain) key w).2.run.memo := by
  cases held : w.run.memo.lookup key with
  | some value =>
    obtain ⟨store, hs, stored⟩ := fits.stored key value (mem_of_lookup held) free
    rw [missing_of_stored meets.poolless missed silent store hs] at stored
    cases stored
  | none =>
    have agrees := (hask room' chain' key).2.2 before w silent within
    match asked : scope.watchStored room chain key w with
    | (some value, after) =>
      rw [watchKey_stored held free asked] at quiet entered
      rw [asked] at agrees
      obtain ⟨same, -⟩ := agrees quiet ((List.suffix_cons _ _).trans entered) fits
      cases missed.symm.trans same
    | (none, after) =>
      rw [watchKey_missing held free asked] at quiet entered ⊢
      rw [asked] at agrees
      have quiet' : after.run.warnings = w.run.warnings :=
        (Run.warnings_said rfl scope.tracing after.run).symm.trans quiet
      obtain ⟨-, grows⟩ := agrees quiet' ((List.suffix_cons _ _).trans entered) fits
      refine ⟨rfl, ?_⟩
      change scope.Grows memo w.run.memo
        (Step.said scope.tracing (.unresolved key) after.run).memo
      rwa [Step.memo_said]

end Filled

include hask

/-- Two holes with one key get the same, if neither gives a warning. Where one of them finds its
text in the memo and the other asks the store, that text was shown for the key. -/
theorem according_watchKey (meets : scope.Meets memo book) (room' : Nat) (chain' : List Text)
    (key : Text) :
    (Simulation.according scope memo book).Rel (scope.fillKey (scope.stored room' chain') key)
      (scope.watchKey (scope.watchStored room chain) key) := by
  refine ⟨precedes_fillKey scope room' chain' key,
    fun w => (backing_watchKey (backing_watchStored scope room chain) key w).1, ?_⟩
  intro run w quiet within quiet' entered fits
  -- It is enough to look at how the first hole comes to its text.
  have reach {value : Text} (put : (key, value) ∈ memo)
      (shown : Field.find? key scope.fields = none → scope.Shown memo key value) :=
    grows_of_put hask quiet' entered fits meets.settled put shown
  cases held : run.memo.lookup key with
  | some value =>
    rw [fillKey_held held] at within ⊢
    have put : (key, value) ∈ memo := within.subset List.mem_cons_self
    obtain ⟨same, grows⟩ := reach put fun field =>
      (meets.shown _ (entered.subset List.mem_cons_self) value put field).1
    exact ⟨same.symm, grows⟩
  | none =>
    cases field : Field.find? key scope.fields with
    | some v =>
      rw [fillKey_field held field] at within ⊢
      have put : (key, v.wording) ∈ memo := within.subset List.mem_cons_self
      obtain ⟨same, grows⟩ := reach put fun free => by
        rw [field] at free
        cases free
      exact ⟨same.symm, grows⟩
    | none =>
      match asked : scope.stored room' chain' key run with
      | (some value, after) =>
        rw [fillKey_stored held field asked] at quiet within ⊢
        have put : (key, value) ∈ memo := within.subset List.mem_cons_self
        have shown : scope.Shown memo key value := by
          refine ⟨room', chain', run, ?_⟩
          rw [asked]
          exact ⟨rfl, quiet, (List.suffix_cons _ _).trans within⟩
        obtain ⟨same, grows⟩ := reach put fun _ => shown
        exact ⟨same.symm, grows⟩
      | (none, after) =>
        rw [fillKey_missing held field asked] at quiet within ⊢
        rw [Step.memo_said] at within
        have missed : (scope.stored room' chain' key run).1 = none := by rw [asked]
        have silent : (scope.stored room' chain' key run).2.warnings = run.warnings := by
          rw [asked]
          exact (Run.warnings_said rfl scope.tracing after).symm.trans quiet
        have within' : (scope.stored room' chain' key run).2.memo <:+ memo := by rwa [asked]
        obtain ⟨same, grows⟩ :=
          grows_of_missing hask quiet' entered fits meets field missed silent within'
        exact ⟨same.symm, grows⟩

theorem according_watchHoles (meets : scope.Meets memo book) (room' : Nat) (chain' : List Text)
    (t : Template) :
    (Simulation.according scope memo book).Rel (scope.fillHoles (scope.stored room' chain') t)
      (scope.watchHoles (scope.watchStored room chain) t) := by
  rw [fillHoles_eq]
  refine Simulation.fillWith _ (fun expression => ?_) (according_watchKey hask meets room' chain') t
  apply Simulation.evaluate
  intro condition
  exact Simulation.evaluateAtom _ (fun name _ => hask room' chain' name)
    (fun _ _ => according_say scope.tracing _ _) condition

end Keys

/-- Two expansions of one key that give no warning agree, whatever room is left to them and below
which chains they stand. The induction is on the room that is left to the watched one. -/
theorem according_watchStored (meets : scope.Meets memo book) (room room' : Nat)
    (chain chain' : List Text) (key : Text) :
    (Simulation.according scope memo book).Rel (scope.stored room' chain' key)
      (scope.watchStored room chain key) := by
  let R := Simulation.according scope memo book
  refine ⟨precedes_stored scope room' chain' key,
    fun w => (backing_watchStored scope room chain key w).1, ?_⟩
  intro run w quiet within quiet' entered fits
  cases hs : scope.store with
  | none =>
    unfold stored watchStored
    simp only [hs]
    exact ⟨rfl, .refl fits⟩
  | some store =>
  have silent : (scope.stored room chain key w.run).2.warnings = w.run.warnings := by
    rwa [← (watching_stored scope room chain key w).2]
  obtain ⟨here, below, rfl⟩ := unrefused_of_quiet hs silent
  obtain ⟨here', below', rfl⟩ := unrefused_of_quiet hs quiet
  -- Neither is refused, so both read the same text.
  have read : R.Rel (scope.stored (below' + 1) chain' key)
      (scope.watchStored (below + 1) chain key) := by
    unfold stored watchStored
    simp only [hs, List.contains_iff_mem, if_neg here, if_neg here']
    refine R.bind (according_fetch meets hs chain' chain key) fun raw => ?_
    cases raw with
    | none => exact R.pure none
    | some raw =>
      refine R.bind (according_watchHoles (fun room' chain' name => ?_) meets _ _ _) fun value => ?_
      · exact according_watchStored meets below room' _ chain' name
      · exact R.bind (according_say scope.tracing _ _) fun _ => R.pure (some value)
  exact read.2.2 run w quiet within quiet' entered fits
termination_by room

end Scope

end Phrasebook
