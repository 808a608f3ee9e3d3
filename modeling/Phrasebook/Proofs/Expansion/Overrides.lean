import Phrasebook.Proofs.Expansion.Fillings

/-!
# Fields override the store, and the memo is written once

A field stands before the store wherever its key is met: the store is never asked for the key
of a field, but for a key that a call requests by name, and every hole with the key is filled
with the first such field. A hole that found a value leaves it in the memo, and no later hole
puts another value there: it is filled from the memo, and nothing else happens
(`serve_overrides`).

The memo is looked at before the fields, so what has to be kept is that the two agree. That it
is written once is a matter of the chain. A hole asks the store for a key that is not in the
memo, and while the stored text is expanded the key is on the chain, where it is refused: nobody
puts it into the memo in the meantime (`Goes.closed`).
-/

namespace Phrasebook

variable {ι lang : Type}

/-- A lookup is made for a key that no field has. -/
def Event.Unbound (fields : List (Option Field)) : Event ι lang → Prop
  | .lookup key _ _ => Field.find? key fields = none
  | _ => True

/-- Where a trail is cut in two, an event with all that is older stands in the newer part or is
in the older one as a whole. -/
theorem mem_or_suffix {e : Event ι lang} {earlier more first : List (Event ι lang)}
    (h : e :: earlier <:+ more ++ first) : e ∈ more ∨ e :: earlier <:+ first := by
  induction more with
  | nil => exact .inr h
  | cons m more ih =>
    rcases List.suffix_cons_iff.1 h with same | h
    · exact .inl ((List.cons.inj same).1 ▸ List.mem_cons_self)
    · rcases ih h with later | first
      · exact .inl (List.mem_cons_of_mem m later)
      · exact .inr first

namespace Scope

section Lookups

variable [DecidableEq ι] {scope : Scope ι lang}

/-- Below the top, and at the top for keys that no field has, only such keys are looked up. -/
theorem unbound_primitives (scope : Scope ι lang) :
    (adding (Event.Unbound scope.fields)).Primitives scope scope
      fun _ key => Field.find? key scope.fields = none :=
  adding_primitives (fun _ => trivial) (fun _ _ _ => trivial) (fun _ _ free _ _ => free)
    fun _ _ _ _ _ free => free

/-- A stored key is looked up first, and from then on only keys that no field has. -/
theorem stored_trail (room : Nat) (key : Text) (run : Run ι lang)
    (hroom : room = scope.maxDepth.toNat) :
    ∃ more first, (scope.stored room [] key run).2.trail = more ++ first ++ run.trail ∧
      (∀ e ∈ more, e.Unbound scope.fields) ∧
      (first = [] ∨ first = [.lookup key scope.language []]) := by
  cases hs : scope.store with
  | none =>
    rw [stored_storeless hs]
    exact ⟨[], [], rfl, List.forall_mem_nil _, .inl rfl⟩
  | some store =>
  have fresh : Text.lower key ∉ ([] : List Text) := List.not_mem_nil
  cases room with
  | zero =>
    rw [stored_tooDeep hs fresh]
    exact ⟨[.note _], [], rfl, List.forall_mem_singleton.2 trivial, .inl rfl⟩
  | succ room =>
    obtain ⟨rolls, asked, hrolls⟩ := fetch_trail store scope.language [] key run
    have unbound : ∀ e ∈ rolls, e.Unbound scope.fields := by
      intro e he
      obtain ⟨place, picked, rfl⟩ := hrolls e he
      trivial
    match hfetch : Step.fetch store scope.language [] key run with
    | (none, after) =>
      simp only [hfetch] at asked
      rw [stored_unfetched hs fresh hfetch]
      exact ⟨rolls, [.lookup key scope.language []], by simp [asked], unbound, .inr rfl⟩
    | (some raw, after) =>
      simp only [hfetch] at asked
      match hfill : scope.fillHoles (scope.stored room ([] ++ [Text.lower key]))
          (Template.read raw) after with
      | (value, after') =>
        obtain ⟨more, filled, hmore⟩ := (unbound_primitives scope).fillHoles room
          ([] ++ [Text.lower key]) (by simp; omega) (fun _ free => free) (Template.read raw) after
        simp only [hfill] at filled
        obtain ⟨notes, said, hnotes⟩ := adding_say (Q := Event.Unbound scope.fields)
          (n := .resolved key ([] : List Text).length) trivial scope.tracing after'
        simp only [Step.say_run] at said
        rw [stored_fetched hs fresh hfetch hfill]
        refine ⟨notes ++ more ++ rolls, [.lookup key scope.language []], ?_, ?_, .inr rfl⟩
        · rw [said, filled, asked]
          simp
        · simp only [List.forall_mem_append]
          exact ⟨⟨hnotes, hmore⟩, unbound⟩

/-- A call looks up keys that no field has, but for the key that it requests: that one it may
look up before all else. -/
theorem serve_trail (scope : Scope ι lang) (call : Call) (run : Run ι lang) :
    ∃ more first, (scope.serve call run).2.trail = more ++ first ++ run.trail ∧
      (∀ e ∈ more, e.Unbound scope.fields) ∧
      (first = [] ∨ ∃ key, call = .expandKey key ∧ first = [.lookup key scope.language []]) := by
  have unrequested (h : ∀ key, call ≠ .expandKey key) :
      ∃ more, (scope.serve call run).2.trail = more ++ run.trail ∧
        ∀ e ∈ more, e.Unbound scope.fields :=
    (unbound_primitives scope).serve call (fun _ free => free)
      (fun key requested => absurd requested (h key)) run
  cases call with
  | expand template =>
    obtain ⟨more, trail, unbound⟩ := unrequested fun _ => nofun
    exact ⟨more, [], by simpa using trail, unbound, .inl rfl⟩
  | expandKey key =>
    obtain ⟨more, first, trail, unbound, lookup⟩ := stored_trail _ key run rfl
    refine ⟨more, first, trail, unbound, ?_⟩
    rcases lookup with none | lookup
    · exact .inl none
    · exact .inr ⟨key, rfl, lookup⟩
  | judge expression =>
    obtain ⟨more, trail, unbound⟩ := unrequested fun _ => nofun
    exact ⟨more, [], by simpa using trail, unbound, .inl rfl⟩

end Lookups
end Scope

/-- What the memo holds for a key was put there. -/
theorem mem_of_lookup {memo : List (Text × Text)} {key value : Text}
    (h : memo.lookup key = some value) : (key, value) ∈ memo := by
  obtain ⟨before, after, rfl, -⟩ := List.lookup_eq_some_iff.1 h
  exact List.mem_append_right before List.mem_cons_self

/-- The memo holds nothing for a key that nothing was put there for. -/
theorem lookup_eq_none_iff {memo : List (Text × Text)} {key : Text} :
    memo.lookup key = none ↔ ∀ value, (key, value) ∉ memo := by
  rw [List.lookup_eq_none_iff]
  constructor
  · intro h value put
    simpa using h _ put
  · rintro h ⟨name, value⟩ put
    simp only [bne_iff_ne, ne_eq]
    rintro rfl
    exact h value put

/-- The memo agrees with the fields and holds one text for a key. It keeps all that was ever
written, so this is about every write of a call. -/
structure Settled (fields : List (Option Field)) (memo : List (Text × Text)) : Prop where
  overridden : ∀ key v value, Field.find? key fields = some v → (key, value) ∈ memo →
    value = v.wording
  once : ∀ key value value', (key, value) ∈ memo → (key, value') ∈ memo → value = value'

namespace Settled

variable {fields : List (Option Field)} {memo : List (Text × Text)} {key value : Text}

theorem nil (fields : List (Option Field)) : Settled fields [] := ⟨nofun, nofun⟩

/-- A text may be written that the key has already, or has from a field, or that is the first
for a key without a field. -/
theorem cons (settled : Settled fields memo)
    (overridden : ∀ v, Field.find? key fields = some v → value = v.wording)
    (once : ∀ value', (key, value') ∈ memo → value' = value) :
    Settled fields ((key, value) :: memo) where
  overridden name v text field put := by
    rcases List.mem_cons.1 put with same | put
    · obtain ⟨rfl, rfl⟩ := Prod.mk.inj same
      exact overridden v field
    · exact settled.overridden name v text field put
  once name text text' put put' := by
    rcases List.mem_cons.1 put with same | old <;> rcases List.mem_cons.1 put' with same' | old'
    · rw [(Prod.mk.inj same).2, (Prod.mk.inj same').2]
    · obtain ⟨rfl, rfl⟩ := Prod.mk.inj same
      exact (once text' old').symm
    · obtain ⟨rfl, rfl⟩ := Prod.mk.inj same'
      exact once text old
    · exact settled.once name text text' old old'

end Settled

/-- A hole was filled as the fields and the memo want it. -/
structure Filling.Fair (fields : List (Option Field)) (p : Filling ι lang) : Prop where
  /-- The field with its key fills it. -/
  overridden : ∀ v, Field.find? p.key fields = some v → p.text = v.wording
  /-- What the memo holds for its key fills it, and nothing happens besides. -/
  again : ∀ value, (p.key, value) ∈ p.before.memo → p.text = value ∧
    p.after = { p.before with memo := (p.key, value) :: p.before.memo }
  /-- What was in the memo stays there. -/
  kept : p.before.memo <:+ p.after.memo
  /-- It leaves its text in the memo, or else it is an echo of its key. -/
  left : (p.key, p.text) ∈ p.after.memo ∨ p.text = p.key ∧ p.after.memo.lookup p.key = none

/-- The memo is settled, and all holes of the book were filled fairly from a part of it. -/
structure Watched.Orderly (fields : List (Option Field)) (w : Watched ι lang) : Prop where
  settled : Settled fields w.run.memo
  filled : ∀ p ∈ w.filled, p.Fair fields ∧ p.after.memo <:+ w.run.memo

/-- A watched run goes on in order below a chain: the memo grows, but nothing comes into it for a
key on the chain, unless a field has the key. -/
structure Watched.Goes (fields : List (Option Field)) (chain : List Text)
    (w after : Watched ι lang) : Prop where
  orderly : after.Orderly fields
  longer : w.run.memo <:+ after.run.memo
  closed : ∀ key, Text.lower key ∈ chain → Field.find? key fields = none →
    w.run.memo.lookup key = none → after.run.memo.lookup key = none

namespace Watched

variable {fields : List (Option Field)} {chain : List Text} {key value text : Text}
variable {w mid after : Watched ι lang}

theorem Goes.refl (orderly : w.Orderly fields) : w.Goes fields chain w :=
  ⟨orderly, List.suffix_refl _, fun _ _ _ absent => absent⟩

theorem Goes.trans (first : w.Goes fields chain mid) (second : mid.Goes fields chain after) :
    w.Goes fields chain after where
  orderly := second.orderly
  longer := first.longer.trans second.longer
  closed key here free absent := second.closed key here free (first.closed key here free absent)

theorem Goes.mono {chain' : List Text} (goes : w.Goes fields chain' after)
    (h : chain ⊆ chain') : w.Goes fields chain after :=
  ⟨goes.orderly, goes.longer, fun key here => goes.closed key (h here)⟩

/-- A step that leaves memo and book alone is in order. -/
theorem Goes.of_eq (orderly : w.Orderly fields) (memo : after.run.memo = w.run.memo)
    (filled : after.filled = w.filled) : w.Goes fields chain after where
  orderly := ⟨memo ▸ orderly.settled, by rw [memo, filled]; exact orderly.filled⟩
  longer := memo ▸ List.suffix_refl _
  closed key _ _ absent := memo ▸ absent

/-- A text may be written for a key that is not on the chain, or has that text already or from a
field. -/
theorem Goes.memoize (orderly : w.Orderly fields)
    (overridden : ∀ v, Field.find? key fields = some v → value = v.wording)
    (once : ∀ value', (key, value') ∈ w.run.memo → value' = value)
    (off : Text.lower key ∉ chain ∨ Field.find? key fields ≠ none ∨
      w.run.memo.lookup key ≠ none) : w.Goes fields chain (w.memoize key value) where
  orderly := by
    refine ⟨orderly.settled.cons overridden once, fun p hp => ?_⟩
    have ⟨fair, kept⟩ := orderly.filled p hp
    exact ⟨fair, kept.trans (List.suffix_cons _ _)⟩
  longer := List.suffix_cons _ _
  closed name here free absent := by
    have other : name ≠ key := by
      rintro rfl
      rcases off with off | off | off
      · exact off here
      · exact off free
      · exact off absent
    change List.lookup name ((key, value) :: w.run.memo) = none
    rw [List.lookup_cons, beq_eq_false_iff_ne.2 other, absent]

/-- A hole that was filled fairly may be entered. -/
theorem Goes.enter {before : Run ι lang} (goes : w.Goes fields chain after)
    (fair : Filling.Fair fields ⟨key, text, before, after.run⟩) :
    w.Goes fields chain (after.enter key text before) where
  orderly := by
    refine ⟨goes.orderly.settled, fun p hp => ?_⟩
    rcases List.mem_cons.1 hp with rfl | hp
    · exact ⟨fair, List.suffix_refl _⟩
    · exact goes.orderly.filled p hp
  longer := goes.longer
  closed := goes.closed

end Watched

/-- Actions that go on in order. -/
def Simulation.ordering (ι lang : Type) (fields : List (Option Field)) (chain : List Text) :
    Simulation (Watch ι lang) (Watch ι lang) :=
  .ofKept
    (fun act => ∀ w : Watched ι lang, w.Orderly fields → w.Goes fields chain (act w).2)
    (fun _ _ orderly => .refl orderly)
    fun hx hf w orderly =>
      have first := hx w orderly
      first.trans (hf _ _ first.orderly)

namespace Scope

section Keys

variable {scope : Scope ι lang} {chain : List Text} {ask : Text → Watch ι lang (Option Text)}

/-- A way to ask the store in order: a key is on the chain while it is asked for, and one that
is there already is refused. -/
structure Asks (fields : List (Option Field)) (chain : List Text)
    (ask : Text → Watch ι lang (Option Text)) : Prop where
  goes : ∀ key,
    (Simulation.ordering ι lang fields (chain ++ [Text.lower key])).Keeps (ask key)
  refused : ∀ key, Text.lower key ∈ chain → ∀ w, (ask key w).1 = none

theorem ordering_watched {α : Type} {act : Step ι lang α} {fields : List (Option Field)}
    (h : ∀ run, (act run).2.memo = run.memo) :
    (Simulation.ordering ι lang fields chain).Keeps act.watched :=
  fun w orderly => .of_eq orderly (h w.run) rfl

theorem ordering_say {fields : List (Option Field)} (tracing : Bool) (n : Note) :
    (Simulation.ordering ι lang fields chain).Keeps (Step.say tracing n).watched := by
  apply ordering_watched
  intro run
  rw [Step.say_run, Step.memo_said]

theorem Asks.keeps (asks : Asks scope.fields chain ask) (key : Text) :
    (Simulation.ordering ι lang scope.fields chain).Keeps (ask key) :=
  fun w orderly => (asks.goes key w orderly).mono (List.subset_append_left _ _)

/-- A hole is filled in order. Only where the store answered does something new come into the
memo: the key is not on the chain then, or the store would have refused it, and it was not put
there while the store was asked, for then it was on the chain. -/
theorem Asks.watchKey (asks : Asks scope.fields chain ask) (key : Text) :
    (Simulation.ordering ι lang scope.fields chain).Keeps (scope.watchKey ask key) := by
  intro w orderly
  cases held : w.run.memo.lookup key with
  | some value =>
    have put : (key, value) ∈ w.run.memo := mem_of_lookup held
    have overridden (v : Scalar) (field : Field.find? key scope.fields = some v) :
        value = v.wording := orderly.settled.overridden key v value field put
    have once (value' : Text) (put' : (key, value') ∈ w.run.memo) : value' = value :=
      orderly.settled.once key value' value put' put
    rw [watchKey_held held]
    apply Watched.Goes.enter
    · exact .memoize orderly overridden once (.inr (.inr (by simp [held])))
    · refine ⟨overridden, fun value' put' => ?_, List.suffix_cons _ _, .inl List.mem_cons_self⟩
      obtain rfl := once value' put'
      exact ⟨rfl, rfl⟩
  | none =>
    have absent : ∀ value, (key, value) ∉ w.run.memo := lookup_eq_none_iff.1 held
    cases field : Field.find? key scope.fields with
    | some v =>
      have overridden (v' : Scalar) (field' : Field.find? key scope.fields = some v') :
          v.wording = v'.wording := by
        rw [Option.some.inj (field.symm.trans field')]
      rw [watchKey_field held field]
      apply Watched.Goes.enter
      · refine .memoize orderly overridden (fun value' put => absurd put (absent value')) ?_
        exact .inr (.inl (by simp [field]))
      · exact ⟨overridden, fun value put => absurd put (absent value), List.suffix_cons _ _,
          .inl List.mem_cons_self⟩
    | none =>
      have free (text : Text) (v : Scalar) (field' : Field.find? key scope.fields = some v) :
          text = v.wording := by
        rw [field] at field'
        cases field'
      have goes := asks.goes key w orderly
      have still : (ask key w).2.run.memo.lookup key = none :=
        goes.closed key (List.mem_append_right _ List.mem_cons_self) field held
      match asked : ask key w with
      | (some value, after) =>
        rw [asked] at goes still
        have off : Text.lower key ∉ chain := by
          intro here
          have refused := asks.refused key here w
          rw [asked] at refused
          cases refused
        have written : after.Goes scope.fields chain (after.memoize key value) :=
          .memoize goes.orderly (free value)
            (fun value' put => absurd put (lookup_eq_none_iff.1 still value')) (.inl off)
        rw [watchKey_stored held field asked]
        apply Watched.Goes.enter
        · exact (goes.mono (List.subset_append_left _ _)).trans written
        · exact ⟨free value, fun value put => absurd put (absent value),
            goes.longer.trans (List.suffix_cons _ _), .inl List.mem_cons_self⟩
      | (none, after) =>
        rw [asked] at goes still
        have said : after.Goes scope.fields chain
            { after with run := Step.said scope.tracing (.unresolved key) after.run } :=
          .of_eq goes.orderly (Step.memo_said _ _ _) rfl
        rw [watchKey_missing held field asked]
        apply Watched.Goes.enter
        · exact (goes.mono (List.subset_append_left _ _)).trans said
        · refine ⟨free key, fun value put => absurd put (absent value), ?_, .inr ⟨rfl, ?_⟩⟩
          · simpa using goes.longer
          · simpa using still

theorem Asks.watchCondition (asks : Asks scope.fields chain ask) (expression : Text) :
    (Simulation.ordering ι lang scope.fields chain).Keeps
      (scope.watchCondition ask expression) := by
  apply Simulation.evaluate
  intro condition
  exact Simulation.evaluateAtom _ (fun name _ => asks.keeps name)
    (fun _ _ => ordering_say scope.tracing _) condition

theorem Asks.watchHoles (asks : Asks scope.fields chain ask) (t : Template) :
    (Simulation.ordering ι lang scope.fields chain).Keeps (scope.watchHoles ask t) :=
  Simulation.fillWith _ asks.watchCondition asks.watchKey t

end Keys

variable [DecidableEq ι]

theorem watchStored_refused {scope : Scope ι lang} {chain : List Text} {key : Text}
    (here : Text.lower key ∈ chain) (room : Nat) (w : Watched ι lang) :
    (scope.watchStored room chain key w).1 = none := by
  cases hs : scope.store with
  | none =>
    unfold watchStored
    simp only [hs]
    rfl
  | some store =>
    unfold watchStored
    simp only [hs, List.contains_iff_mem, here, if_true]
    rfl

theorem memo_fetch (store : Store ι lang) (language : lang) (chain : List Text) (key : Text)
    (run : Run ι lang) : (Step.fetch store language chain key run).2.memo = run.memo := by
  cases found : store key language with
  | none => rw [Step.fetch_missing found]; rfl
  | some held =>
    cases held with
    | text raw => rw [Step.fetch_text found]; rfl
    | pool place => rw [Step.fetch_pool found]; rfl

/-- The store is asked in order on every level. The induction is on the room that is left. -/
theorem asks_watchStored (scope : Scope ι lang) (room : Nat) (chain : List Text) :
    Asks scope.fields chain (scope.watchStored room chain) := by
  induction room generalizing chain with
  | zero =>
    refine ⟨fun key => ?_, fun key here => watchStored_refused here 0⟩
    let R := Simulation.ordering ι lang scope.fields (chain ++ [Text.lower key])
    unfold watchStored
    split
    · exact R.pure none
    · split
      · exact R.bind (ordering_say scope.tracing _) fun _ => R.pure none
      · exact R.bind (ordering_say scope.tracing _) fun _ => R.pure none
  | succ room ih =>
    refine ⟨fun key => ?_, fun key here => watchStored_refused here (room + 1)⟩
    let R := Simulation.ordering ι lang scope.fields (chain ++ [Text.lower key])
    unfold watchStored
    split
    · exact R.pure none
    · next store _ =>
      split
      · exact R.bind (ordering_say scope.tracing _) fun _ => R.pure none
      · refine R.bind (ordering_watched fun run => memo_fetch store _ chain key run) fun raw => ?_
        cases raw with
        | none => exact R.pure none
        | some raw =>
          refine R.bind ((ih (chain ++ [Text.lower key])).watchHoles _) fun value => ?_
          exact R.bind (ordering_say scope.tracing _) fun _ => R.pure (some value)

theorem ordering_watch (scope : Scope ι lang) (call : Call) :
    (Simulation.ordering ι lang scope.fields []).Keeps (scope.watch call) := by
  let R := Simulation.ordering ι lang scope.fields []
  have asks := asks_watchStored scope scope.maxDepth.toNat []
  cases call with
  | expand template => exact R.bind (asks.watchHoles _) fun value => R.pure (Answer.text value)
  | expandKey key => exact R.bind (asks.keeps key) fun value => R.pure (Answer.stored value)
  | judge expression =>
    exact R.bind (asks.watchCondition expression) fun value => R.pure (Answer.verdict value)

/-- **Fields override the store, and the memo is written once.** The store is asked for the key of
a field only when the call requests that key, and then before all else. Of the holes that the
call fills, on any level, those with the key of a field get the wording of the first such field.
The memo holds one text for a key: a hole leaves its text there, unless it is an echo, and finds
there what was put before, and a hole whose key is in the memo is filled with that text and
changes nothing, neither trail nor pools nor draws. -/
theorem serve_overrides (scope : Scope ι lang) (call : Call) (pools : ι → Pool) (draws : Draws) :
    let served := scope.serve call { pools, draws }
    let watched := scope.watch call { run := { pools, draws } }
    (watched.1 = served.1 ∧ watched.2.run = served.2) ∧
    (∀ f, some f ∈ scope.fields → ∀ language chain earlier,
      .lookup f.key language chain :: earlier <:+ served.2.trail →
        call = .expandKey f.key ∧ earlier = []) ∧
    (∀ key value value', (key, value) ∈ served.2.memo → (key, value') ∈ served.2.memo →
      value = value') ∧
    ∀ p ∈ watched.2.filled,
      (∀ before f behind, scope.fields = before ++ some f :: behind →
        (∀ g, some g ∈ before → g.key ≠ f.key) → p.key = f.key → p.text = f.wording) ∧
      (p.before.memo <:+ p.after.memo ∧ p.after.memo <:+ served.2.memo) ∧
      ((p.key, p.text) ∈ p.after.memo ∨ p.text = p.key ∧ p.after.memo.lookup p.key = none) ∧
      ∀ value, (p.key, value) ∈ p.before.memo → p.text = value ∧
        p.after = { p.before with memo := (p.key, value) :: p.before.memo } := by
  intro served watched
  have same : watched.1 = served.1 ∧ watched.2.run = served.2 := watch_eq scope call _
  have orderly : watched.2.Orderly scope.fields :=
    (ordering_watch scope call _ ⟨.nil scope.fields, List.forall_mem_nil _⟩).orderly
  have settled : Settled scope.fields served.2.memo := same.2 ▸ orderly.settled
  refine ⟨same, ?_, settled.once, fun p hp => ?_⟩
  · intro f hf language chain earlier asked
    have bound : Field.find? f.key scope.fields ≠ none := fun free =>
      Field.find?_eq_none_iff.1 free f hf rfl
    obtain ⟨more, first, trail, unbound, lookup⟩ := serve_trail scope call { pools, draws }
    have whole : served.2.trail = more ++ first := by rw [trail, List.append_nil]
    rw [whole] at asked
    rcases mem_or_suffix asked with later | asked
    · exact absurd (unbound _ later) bound
    · rcases lookup with rfl | ⟨key, rfl, rfl⟩
      · exact absurd (List.suffix_nil.1 asked) (List.cons_ne_nil _ _)
      · rcases List.suffix_cons_iff.1 asked with same | asked
        · obtain ⟨event, nothing⟩ := List.cons.inj same
          obtain ⟨requested, -, -⟩ := Event.lookup.inj event
          exact ⟨congrArg Call.expandKey requested.symm, nothing⟩
        · exact absurd (List.suffix_nil.1 asked) (List.cons_ne_nil _ _)
  · have ⟨fair, kept⟩ := orderly.filled p hp
    refine ⟨?_, ⟨fair.kept, same.2 ▸ kept⟩, fair.left, fair.again⟩
    intro before f behind split earlier key
    apply fair.overridden f.value
    rw [key, split]
    exact Field.find?_of_first earlier behind

/-- A scope with two fields for one key, which is stored as well. The other key is a pool. -/
def overriddenScope : Scope Unit Unit where
  store := some fun key _ =>
    if key = ['a'] then some (.text "{{a}}{{b}}{{b}}".toList)
    else if key = ['b'] then some (.pool ())
    else none
  language := ()
  fields := [none, some ⟨['a'], .text ['1']⟩, some ⟨['a'], .text ['2']⟩]
  maxDepth := 3
  tracing := false

/-- The pool of that scope has two candidates. -/
def overriddenPools : Unit → Pool := fun _ => { candidates := [['x'], ['y']] }

/-- The requested key is looked up although a field has it. Below it the field counts, and the
pool is rolled for the first of the two holes only. -/
theorem serve_overrides_requested :
    (overriddenScope.serve (.expandKey ['a'])
      { pools := overriddenPools, draws := .cycle [] }).1 = .stored (some ['1', 'x', 'x']) ∧
    ∀ p ∈ (overriddenScope.watch (.expandKey ['a'])
        { run := { pools := overriddenPools, draws := .cycle [] } }).2.filled,
      (p.key = ['a'] → p.text = ['1']) ∧
      ((p.key, ['x']) ∈ p.before.memo → p.after.trail = p.before.trail) := by
  refine ⟨by decide +kernel, fun p hp => ?_⟩
  obtain ⟨-, -, -, fair⟩ :=
    serve_overrides overriddenScope (.expandKey ['a']) overriddenPools (.cycle [])
  obtain ⟨overridden, -, -, again⟩ := fair p hp
  constructor
  · exact overridden [none] ⟨['a'], .text ['1']⟩ _ rfl (by simp)
  · intro held
    rw [(again ['x'] held).2]

end Scope

end Phrasebook
