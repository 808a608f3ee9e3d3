import Mathlib.Data.List.Perm.Basic
import Phrasebook.Expansion.Resolver
import Phrasebook.Proofs.Simulation

/-!
# Only the first binding of a key counts

A list of fields is read in two places: where a hole is filled, and where a name of a condition
is looked up. Both go through `Field.find?`, so lists that give the same value for every key
(`Field.SameBindings`) are interchangeable in every layer of a condition, in every hole, and by
induction on the room that is left on every level of an expansion. A call with the one is a call
with the other, down to the order of lookups, rolls and notes (`Resolver.first_binding_counts`).

Missing fields, later fields with a key that was bound before, and the order of fields with
different keys do not show in what is found, and so they never show at all.
-/

namespace Phrasebook

namespace Field

variable {key : Text} {v : Scalar} {fs gs : List (Option Field)}

/-- Two lists of fields that bind every key to the same value, or both to none. -/
def SameBindings (fs gs : List (Option Field)) : Prop := ∀ key, find? key fs = find? key gs

/-- The keys of the fields in their order. -/
def keys (fs : List (Option Field)) : List Text := fs.filterMap (Option.map Field.key)

theorem keys_append (fs gs : List (Option Field)) : keys (fs ++ gs) = keys fs ++ keys gs :=
  List.filterMap_append

theorem key_mem_keys {f : Field} (h : some f ∈ fs) : f.key ∈ keys fs :=
  List.mem_filterMap.2 ⟨some f, h, rfl⟩

theorem find?_append (key : Text) (fs gs : List (Option Field)) :
    find? key (fs ++ gs) = (find? key fs).or (find? key gs) := by
  induction fs with
  | nil => rfl
  | cons first fs ih =>
    cases first with
    | none => exact ih
    | some f =>
      rw [List.cons_append, find?_some_cons, find?_some_cons, ih]
      split <;> rfl

theorem find?_ne_none (h : key ∈ keys fs) : find? key fs ≠ none := by
  intro unbound
  obtain ⟨first, hfirst, named⟩ := List.mem_filterMap.1 h
  obtain ⟨f, rfl, same⟩ := Option.map_eq_some_iff.1 named
  exact find?_eq_none_iff.1 unbound f hfirst same

/-- Where no key stands twice, a key is bound to the value of the field that has it. -/
theorem find?_eq_some_iff (distinct : (keys fs).Nodup) :
    find? key fs = some v ↔ ∃ f, some f ∈ fs ∧ f.key = key ∧ f.value = v := by
  refine ⟨exists_of_find?, ?_⟩
  rintro ⟨f, hf, rfl, rfl⟩
  obtain ⟨before, behind, rfl⟩ := List.append_of_mem hf
  refine find?_of_first (fun g hg same => ?_) behind
  rw [keys_append] at distinct
  have apart := (List.nodup_append.1 distinct).2.2
  exact apart g.key (key_mem_keys hg) f.key List.mem_cons_self same

/-- Missing fields are passed over. -/
theorem sameBindings_present (fs : List (Option Field)) :
    SameBindings fs (fs.filter Option.isSome) := by
  intro key
  induction fs with
  | nil => rfl
  | cons first fs ih =>
    cases first with
    | none => exact ih
    | some f =>
      rw [List.filter_cons_of_pos rfl, find?_some_cons, find?_some_cons, ih]

/-- A field whose key is bound by an earlier one can be left out. -/
theorem sameBindings_later {before : List (Option Field)} {f : Field}
    (bound : f.key ∈ keys before) (behind : List (Option Field)) :
    SameBindings (before ++ some f :: behind) (before ++ behind) := by
  intro key
  rw [find?_append, find?_append, find?_some_cons]
  split
  · next same =>
    subst same
    obtain ⟨v, found⟩ := Option.ne_none_iff_exists'.1 (find?_ne_none bound)
    rw [found]
    rfl
  · rfl

/-- Fields with different keys can stand in any order. -/
theorem sameBindings_of_perm (distinct : (keys fs).Nodup) (h : fs.Perm gs) :
    SameBindings fs gs := by
  have distinct' : (keys gs).Nodup := (h.filterMap _).nodup_iff.1 distinct
  intro key
  ext v
  rw [find?_eq_some_iff distinct, find?_eq_some_iff distinct']
  simp only [h.mem_iff]

/-- The field that a variable becomes; one of a kind that no field can hold would be empty. -/
def ofVariable (b : Text × Value) : Field := ⟨b.1, b.2.scalar?.toOption.getD .null⟩

theorem keys_ofVariable (bindings : List (Text × Value)) :
    keys ((bindings.map ofVariable).map some) = bindings.map Prod.fst := by
  rw [keys, List.map_map, List.filterMap_map, ← List.filterMap_eq_map]
  rfl

end Field

namespace Condition

variable {m : Type → Type} [Monad m] {fs gs : List (Option Field)}

theorem Atom.decide_congr (h : Field.SameBindings fs gs) (ask : Option (Text → m (Option Text)))
    (atom : Atom) : atom.decide fs ask = atom.decide gs ask := by
  cases atom with
  | compare key literal differ => simp only [Atom.decide, h key]
  | bare name invert => simp only [Atom.decide, h name]

theorem evaluateAtom_congr (h : Field.SameBindings fs gs) (ask : Option (Text → m (Option Text)))
    (note : Text → Option Bool → m Unit) :
    evaluateAtom fs ask note = evaluateAtom gs ask note := by
  funext condition
  rw [evaluateAtom, evaluateAtom, Atom.decide_congr h]

/-- The outer layers never look at the fields. -/
theorem evaluate_congr (h : Field.SameBindings fs gs) (ask : Option (Text → m (Option Text)))
    (note : Text → Option Bool → m Unit) : evaluate fs ask note = evaluate gs ask note := by
  have sides : evaluateSides fs ask note = evaluateSides gs ask note := by
    funext condition
    simp only [evaluateSides, evaluateAtom_congr h]
  funext expression
  simp only [evaluate, sides]

theorem inquire_congr (h : Field.SameBindings fs gs) (stored : Option (Text → Option Text))
    (expression : Text) : inquire fs stored expression = inquire gs stored expression := by
  simp only [inquire, evaluate_congr h]

end Condition

namespace Scope

variable {ι lang : Type} {fs gs : List (Option Field)}

/-- The scope with other fields. -/
def withFields (scope : Scope ι lang) (fields : List (Option Field)) : Scope ι lang :=
  { scope with fields }

theorem evaluate_congr (h : Field.SameBindings fs gs) (scope : Scope ι lang)
    (ask : Text → Step ι lang (Option Text)) :
    (scope.withFields fs).evaluate ask = (scope.withFields gs).evaluate ask :=
  Condition.evaluate_congr h _ _

theorem fillKey_congr (h : Field.SameBindings fs gs) (scope : Scope ι lang)
    (ask : Text → Step ι lang (Option Text)) :
    (scope.withFields fs).fillKey ask = (scope.withFields gs).fillKey ask := by
  have resolved : (scope.withFields fs).resolve ask = (scope.withFields gs).resolve ask := by
    funext key
    have bound : Field.find? key (scope.withFields fs).fields =
        Field.find? key (scope.withFields gs).fields := h key
    simp only [resolve, bound]
  funext key
  rw [fillKey, fillKey, resolved]
  rfl

theorem fillHoles_congr (h : Field.SameBindings fs gs) (scope : Scope ι lang)
    (ask : Text → Step ι lang (Option Text)) :
    (scope.withFields fs).fillHoles ask = (scope.withFields gs).fillHoles ask := by
  funext t
  rw [fillHoles_eq, fillHoles_eq, evaluate_congr h, fillKey_congr h]

variable [DecidableEq ι]

/-- The expansion of a stored key does not depend on the list of fields beyond its bindings. The
levels below are those with less room. -/
theorem stored_congr (h : Field.SameBindings fs gs) (scope : Scope ι lang) (room : Nat) :
    (scope.withFields fs).stored room = (scope.withFields gs).stored room := by
  induction room with
  | zero =>
    funext chain key
    rw [stored, stored]
    rfl
  | succ room ih =>
    have below (chain : List Text) (t : Template) :
        (scope.withFields fs).fillHoles (fun k => (scope.withFields fs).stored room chain k) t =
          (scope.withFields gs).fillHoles
            (fun k => (scope.withFields gs).stored room chain k) t := by
      rw [ih, fillHoles_congr h]
    funext chain key
    rw [stored, stored]
    simp only [below]
    rfl

theorem expand_congr (h : Field.SameBindings fs gs) (scope : Scope ι lang) :
    (scope.withFields fs).expand = (scope.withFields gs).expand := by
  funext template
  rw [expand, expand, ask, ask, stored_congr h, fillHoles_congr h]
  rfl

theorem expandKey_congr (h : Field.SameBindings fs gs) (scope : Scope ι lang) :
    (scope.withFields fs).expandKey = (scope.withFields gs).expandKey := by
  funext key
  rw [expandKey, expandKey, ask, ask, stored_congr h]
  rfl

theorem judge_congr (h : Field.SameBindings fs gs) (scope : Scope ι lang) :
    (scope.withFields fs).judge = (scope.withFields gs).judge := by
  funext expression
  rw [judge, judge, ask, ask, stored_congr h, evaluate_congr h]
  rfl

end Scope

/-- Where no step fails, the results are those of the single steps. -/
theorem mapM_eq_ok {ε α β : Type} {f : α → Except ε β} {g : α → β} {xs : List α}
    (h : ∀ x ∈ xs, f x = .ok (g x)) : xs.mapM f = .ok (xs.map g) := by
  induction xs with
  | nil => rfl
  | cons x xs ih =>
    obtain ⟨first, others⟩ := List.forall_mem_cons.1 h
    rw [List.mapM_cons, first, ih others]
    rfl

namespace Resolver

variable {σ ι lang : Type} [DecidableEq ι]

/-- A call with the one list of fields is a call with the other: it gives the same value, asks,
rolls and says the same in the same order, and leaves the same shelf and draws behind. -/
structure Indifferent (r : Resolver) (kind : Shelf σ ι lang) (shelf : Option σ) (draws : Draws)
    (language : lang) (fs gs : List (Option Field)) : Prop where
  expand : ∀ template, r.expand kind shelf draws language fs template =
    r.expand kind shelf draws language gs template
  expandKey : ∀ key, r.expandKey kind shelf draws language fs key =
    r.expandKey kind shelf draws language gs key
  evaluate : ∀ expression, r.evaluate kind shelf draws language fs expression =
    r.evaluate kind shelf draws language gs expression
  inquire : ∀ stored expression,
    Condition.inquire fs stored expression = Condition.inquire gs stored expression

section Calls

variable (r : Resolver) (kind : Shelf σ ι lang) (shelf : Option σ) (draws : Draws)
variable (language : lang)

theorem indifferent {fs gs : List (Option Field)} (h : Field.SameBindings fs gs) :
    r.Indifferent kind shelf draws language fs gs where
  expand template := congrArg (perform kind shelf draws)
    (congrFun (Scope.expand_congr h (r.scope kind shelf language [])) template)
  expandKey key := congrArg (perform kind shelf draws)
    (congrFun (Scope.expandKey_congr h (r.scope kind shelf language [])) key)
  evaluate expression := congrArg (perform kind shelf draws)
    (congrFun (Scope.judge_congr h (r.scope kind shelf language [])) expression)
  inquire := Condition.inquire_congr h

/-- Variables of kinds that fields can hold, with different names, can stand in any order. -/
theorem render_perm {bindings bindings' : List (Text × Value)} (h : bindings.Perm bindings')
    (distinct : (bindings.map Prod.fst).Nodup)
    (supported : ∀ b ∈ bindings, ∃ s, b.2 = .scalar s) (template : Text) :
    r.render kind shelf draws language bindings template =
      r.render kind shelf draws language bindings' template := by
  have made : ∀ b ∈ bindings, Field.make b.1 b.2 = .ok (Field.ofVariable b) := by
    intro b hb
    obtain ⟨s, value⟩ := supported b hb
    rw [Field.ofVariable, value]
    rfl
  have fields := mapM_eq_ok made
  have fields' := mapM_eq_ok fun b hb => made b (h.mem_iff.2 hb)
  have same : Field.SameBindings ((bindings.map Field.ofVariable).map some)
      ((bindings'.map Field.ofVariable).map some) := by
    apply Field.sameBindings_of_perm
    · rwa [Field.keys_ofVariable]
    · exact (h.map Field.ofVariable).map some
  simp only [render, fields, fields']
  rw [(r.indifferent kind shelf draws language same).expand template]

end Calls

/-- **Only the first binding of each key matters.** Two lists of fields that give the same value for
every key are interchangeable in every call, whatever the store and the depth limit. So are a list
and what is left of it without its missing fields, or without a field whose key stands before it,
or in another order if no key stands twice; and a template is rendered alike for every order of its
variables, if fields can hold their values and their names differ. -/
theorem first_binding_counts (r : Resolver) (kind : Shelf σ ι lang) (shelf : Option σ)
    (draws : Draws) (language : lang) :
    (∀ fs gs, Field.SameBindings fs gs → r.Indifferent kind shelf draws language fs gs) ∧
    (∀ fs, r.Indifferent kind shelf draws language fs (fs.filter Option.isSome)) ∧
    (∀ before f behind, f.key ∈ Field.keys before →
      r.Indifferent kind shelf draws language (before ++ some f :: behind) (before ++ behind)) ∧
    (∀ fs gs, (Field.keys fs).Nodup → fs.Perm gs →
      r.Indifferent kind shelf draws language fs gs) ∧
    ∀ bindings bindings', (bindings.map Prod.fst).Nodup → bindings.Perm bindings' →
      (∀ b ∈ bindings, ∃ s, b.2 = .scalar s) → ∀ template,
      r.render kind shelf draws language bindings template =
        r.render kind shelf draws language bindings' template := by
  refine ⟨fun fs gs h => ?_, fun fs => ?_, fun before f behind bound => ?_,
    fun fs gs distinct h => ?_, fun bindings bindings' distinct h supported template => ?_⟩
  · exact r.indifferent kind shelf draws language h
  · exact r.indifferent kind shelf draws language (Field.sameBindings_present fs)
  · exact r.indifferent kind shelf draws language (Field.sameBindings_later bound behind)
  · exact r.indifferent kind shelf draws language (Field.sameBindings_of_perm distinct h)
  · exact r.render_perm kind shelf draws language h distinct supported template

/-- Two variables, of which one is a truth value. -/
def flagVariables : List (Text × Value) := [(['a'], .ofText ['1']), (['b'], .scalar (.bool true))]

/-- The variables as fields, among a missing field and a second one for the first key. -/
def flagFields : List (Option Field) :=
  [none, some ⟨['a'], .text ['1']⟩, some ⟨['b'], .bool true⟩, some ⟨['a'], .text ['2']⟩]

/-- The variables as fields in the other order. -/
def swappedFields : List (Option Field) := [some ⟨['b'], .bool true⟩, some ⟨['a'], .text ['1']⟩]

/-- A stored text with holes for both keys, and a pool. -/
def flagEntries : Entries := .ofList
  [(['c'], .text "{{a}}{{if:b == TRUE:d}}".toList), (['d'], .pool { candidates := [['x'], ['y']] })]

/-- Lists of fields for which each part speaks, in a call that meets the keys on two levels. -/
theorem first_binding_counts_swapped :
    let r : Resolver := {}
    let shelf : Shelf Entries Text Unit := Entries.shelf
    let alike := r.Indifferent shelf (some flagEntries) (.cycle []) ()
    (Field.SameBindings flagFields swappedFields ∧ alike flagFields swappedFields) ∧
    alike flagFields (flagFields.filter Option.isSome) ∧
    (['a'] ∈ Field.keys (flagFields.take 3) ∧ alike flagFields (flagFields.take 3)) ∧
    ((Field.keys swappedFields).Nodup ∧ alike swappedFields swappedFields.reverse) ∧
    ((flagVariables.map Prod.fst).Nodup ∧ (∀ b ∈ flagVariables, ∃ s, b.2 = .scalar s) ∧
      r.render shelf (some flagEntries) (.cycle []) () flagVariables "{{c}}".toList =
        r.render shelf (some flagEntries) (.cycle []) () flagVariables.reverse "{{c}}".toList) ∧
    (r.expand shelf (some flagEntries) (.cycle []) () flagFields "{{c}}".toList).value =
      ['1', 'x'] := by
  intro r shelf alike
  obtain ⟨same, present, later, order, render⟩ :=
    first_binding_counts r shelf (some flagEntries) (.cycle []) ()
  have scalars : ∀ b ∈ flagVariables, ∃ s, b.2 = .scalar s := by
    intro b hb
    simp only [flagVariables, List.mem_cons, List.not_mem_nil, or_false] at hb
    rcases hb with rfl | rfl
    · exact ⟨_, rfl⟩
    · exact ⟨_, rfl⟩
  have bindings : Field.SameBindings flagFields swappedFields := by
    intro key
    by_cases a : ['a'] = key
    · subst a
      rfl
    · simp [flagFields, swappedFields, Field.find?_some_cons, a]
  refine ⟨⟨bindings, same _ _ bindings⟩, present _, ⟨by decide, ?_⟩, ⟨by decide, ?_⟩,
    ⟨by decide, scalars, ?_⟩, by decide +kernel⟩
  · exact later (flagFields.take 3) ⟨['a'], .text ['2']⟩ [] (by decide)
  · exact order _ _ (by decide) (List.reverse_perm swappedFields).symm
  · exact render _ _ (by decide) (List.reverse_perm flagVariables).symm scalars _

end Resolver

end Phrasebook
