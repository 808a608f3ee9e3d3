import Phrasebook.Document
import Phrasebook.Proofs.Expansion.Steps
import Phrasebook.Proofs.Simulation

/-!
# Calls that may be given up

What a field says is computed, and the computation can fail: an integer can have more digits than
are written, and a number that is not finite has no integer part. A venture is an expansion that is
given up at the first such fault. The integer part is asked only of finite numbers
(`Scalar.truth_eq`), so a venture goes like the expansion itself unless some field has too many
digits (`Scope.ventureExpand_run`). Then it may be given up in the middle of what it does, or never
meet that field and go through.
-/

namespace Phrasebook

/-- Why a scalar does not give a text or a truth value. -/
inductive ScalarFault where
  /-- An integer with more digits than are written. -/
  | tooLong
  /-- The integer part of what is not a number. -/
  | notANumber
  /-- The integer part of an infinity. -/
  | infinite
  deriving DecidableEq, Repr

/-- The wording of the fault. -/
def ScalarFault.message : ScalarFault → Text
  | .tooLong => TextFault.tooLong.message
  | .notANumber => "cannot convert float NaN to integer".toList
  | .infinite => "cannot convert float infinity to integer".toList

/-- Is the number neither infinite nor not a number? -/
def Binary64.isFinite : Binary64 → Bool
  | .finite .. => true
  | _ => false

/-- The integer part of a number. -/
def Binary64.whole (x : Binary64) : Except ScalarFault Int :=
  match x.truncate? with
  | some i => .ok i
  | none => .error (if x = .nan then .notANumber else .infinite)

namespace Scalar

/-- The wording of a scalar, if it has one. -/
def written (s : Scalar) : Except ScalarFault Text :=
  if s.isTooLong then .error .tooLong else .ok s.wording

/-- The truth of a scalar, if it has one. A float is asked for its integer part if it is finite. -/
def truth : Scalar → Except ScalarFault Bool
  | .null => .ok false
  | .bool b => .ok b
  | .int i => .ok (decide (0 < i))
  | .float x => if x.isFinite then (fun i => decide (0 < i)) <$> x.whole else .ok x.isPositive
  | .text t => .ok (textHolds t)

/-- Every scalar has a truth, also where it has no integer part or no wording. -/
theorem truth_eq (s : Scalar) : s.truth = .ok s.holds := by
  cases s with
  | float x => cases x <;> rfl
  | _ => rfl

end Scalar

variable {ι lang : Type}

/-- An action that may be given up. What has happened before stays. -/
abbrev Venture (ι lang : Type) := ExceptT ScalarFault (Step ι lang)

/-- A step that is not given up. -/
def Step.ventured {α : Type} (act : Step ι lang α) : Venture ι lang α := ExceptT.lift act

namespace Venture

variable {α β : Type}

/-- A computation, at whose fault the action is given up. -/
def compute (x : Except ScalarFault α) : Venture ι lang α := ExceptT.mk (pure x)

@[simp] theorem compute_run (x : Except ScalarFault α) (run : Run ι lang) :
    (compute x : Venture ι lang α) run = (x, run) := rfl

variable {x : Venture ι lang α} {run after : Run ι lang}

theorem bind_run (x : Venture ι lang α) (f : α → Venture ι lang β) (run : Run ι lang) :
    (x >>= f) run = ExceptT.bindCont f (x run).1 (x run).2 := rfl

theorem bind_ok {a : α} (h : x run = (.ok a, after)) (f : α → Venture ι lang β) :
    (x >>= f) run = f a after := by
  rw [bind_run, h]
  rfl

theorem bind_error {fault : ScalarFault} (h : (x run).1 = .error fault)
    (f : α → Venture ι lang β) : (x >>= f) run = (.error fault, (x run).2) := by
  rw [bind_run, h]
  rfl

end Venture

/-- What has to be computed of the fields for the verdict on an atom. -/
def Condition.Atom.compute (fields : List (Option Field)) :
    Condition.Atom → Except ScalarFault Unit
  | .compare key _ _ =>
    match Field.find? key fields with
    | some v => discard v.written
    | none => .ok ()
  | .bare name _ =>
    match Field.find? name fields with
    | some v => discard v.truth
    | none => .ok ()

namespace Scope

section Filling

variable (scope : Scope ι lang) (ask : Text → Venture ι lang (Option Text))

/-- The verdict on a condition. It is given up before a verdict is noted that could not be
computed. -/
def ventureCondition (expression : Text) : Venture ι lang (Option Bool) :=
  Condition.evaluate scope.fields (some ask)
    (fun condition verdict => do
      Venture.compute ((Condition.Atom.read condition).compute scope.fields)
      (Step.say scope.tracing (.decided condition verdict)).ventured)
    expression

/-- The value of a key, which is given up if a field has the key and no wording. -/
def ventureValue (key : Text) : Venture ι lang (Option Text) := do
  match ← (Step.memoized key).ventured with
  | some value => return some value
  | none =>
    match Field.find? key scope.fields with
    | some v => some <$> Venture.compute v.written
    | none => ask key

/-- What a hole with a plain key is filled with. -/
def ventureKey (key : Text) : Venture ι lang Text := do
  match ← scope.ventureValue ask key with
  | some value =>
    (Step.memoize key value).ventured
    return value
  | none =>
    (Step.say scope.tracing (.unresolved key)).ventured
    return key

/-- Fill the holes of a template. -/
def ventureHoles (t : Template) : Venture ι lang Text :=
  t.fillWith (scope.ventureCondition ask) (scope.ventureKey ask)

end Filling

variable [DecidableEq ι]

/-- The expansion of a stored key. -/
def ventureStored (scope : Scope ι lang) (room : Nat) (chain : List Text) (key : Text) :
    Venture ι lang (Option Text) :=
  match scope.store with
  | none => return none
  | some store =>
    if chain.contains (Text.lower key) then do
      (Step.say scope.tracing (.cyclic key chain)).ventured
      return none
    else
      match room with
      | 0 => do
        (Step.say scope.tracing (.tooDeep scope.maxDepth key)).ventured
        return none
      | room + 1 => do
        match ← (Step.fetch store scope.language chain key).ventured with
        | none => return none
        | some raw =>
          let value ← scope.ventureHoles
            (fun k => scope.ventureStored room (chain ++ [Text.lower key]) k) (Template.read raw)
          (Step.say scope.tracing (.resolved key chain.length)).ventured
          return some value

/-- Expand a template. -/
def ventureExpand (scope : Scope ι lang) (template : Text) : Venture ι lang Text :=
  scope.ventureHoles (scope.ventureStored scope.maxDepth.toNat []) (Template.read template)

end Scope

namespace Field

/-- Some field is an integer with more digits than are written. -/
def SomeTooLong (fields : List (Option Field)) : Prop :=
  ∃ f, some f ∈ fields ∧ f.value.isTooLong = true

/-- A computation gives a value, or a fault over the digits of a field. -/
def Computes {α : Type} (fields : List (Option Field)) (x : Except ScalarFault α) (a : α) : Prop :=
  x = .ok a ∨ (x = .error .tooLong ∧ SomeTooLong fields)

variable {fields : List (Option Field)}

theorem Computes.map {α β : Type} {x : Except ScalarFault α} {a : α} (h : Computes fields x a)
    (f : α → β) : Computes fields (f <$> x) (f a) := by
  rcases h with rfl | ⟨rfl, long⟩
  · exact .inl rfl
  · exact .inr ⟨rfl, long⟩

theorem computes_written {key : Text} {v : Scalar} (bound : find? key fields = some v) :
    Computes fields v.written v.wording := by
  unfold Scalar.written
  split
  · next long =>
    obtain ⟨f, hf, -, rfl⟩ := exists_of_find? bound
    exact .inr ⟨rfl, f, hf, long⟩
  · exact .inl rfl

/-- An atom is decided, or compares a field that has too many digits. Truth is no obstacle. -/
theorem computes_atom (fields : List (Option Field)) (atom : Condition.Atom) :
    Computes fields (atom.compute fields) () := by
  cases atom with
  | compare key literal differ =>
    cases bound : find? key fields with
    | none => simp only [Condition.Atom.compute, bound, Computes, true_or]
    | some v =>
      simp only [Condition.Atom.compute, bound]
      exact (computes_written bound).map fun _ => ()
  | bare name invert =>
    cases bound : find? name fields with
    | none => simp only [Condition.Atom.compute, bound, Computes, true_or]
    | some v =>
      simp only [Condition.Atom.compute, bound, v.truth_eq]
      exact .inl rfl

end Field

/-- The second action goes like the first, or is given up over the digits of a field. -/
def Simulation.venturing (ι lang : Type) (fields : List (Option Field)) :
    Simulation (Step ι lang) (Venture ι lang) where
  Rel x y := ∀ run, y run = (.ok (x run).1, (x run).2) ∨
    ((y run).1 = .error .tooLong ∧ Field.SomeTooLong fields)
  pure _ _ := .inl rfl
  bind {_ _ x y f g} hx hf run := by
    rcases hx run with through | ⟨fault, long⟩
    · rw [Venture.bind_ok through, Step.bind_run]
      exact hf _ _
    · rw [Venture.bind_error fault]
      exact .inr ⟨rfl, long⟩

namespace Scope

section Filling

variable {fields : List (Option Field)} {α : Type}

theorem venturing_ventured (act : Step ι lang α) :
    (Simulation.venturing ι lang fields).Rel act act.ventured := fun _ => .inl rfl

theorem venturing_compute {x : Except ScalarFault α} {a : α} (h : Field.Computes fields x a) :
    (Simulation.venturing ι lang fields).Rel (pure a) (Venture.compute x) := by
  intro run
  rw [Venture.compute_run]
  rcases h with rfl | ⟨rfl, long⟩
  · exact .inl rfl
  · exact .inr ⟨rfl, long⟩

variable {scope : Scope ι lang} {ask : Text → Step ι lang (Option Text)}
variable {ask' : Text → Venture ι lang (Option Text)}

section Asking

variable (h : ∀ key, (Simulation.venturing ι lang scope.fields).Rel (ask key) (ask' key))
include h

theorem venturing_condition (expression : Text) :
    (Simulation.venturing ι lang scope.fields).Rel (scope.evaluate ask expression)
      (scope.ventureCondition ask' expression) := by
  let R := Simulation.venturing ι lang scope.fields
  refine R.evaluate (R.evaluateAtom (fun name _ => h name) fun condition verdict => ?_) expression
  exact R.bind (venturing_compute (Field.computes_atom scope.fields _)) fun _ =>
    venturing_ventured (Step.say scope.tracing (.decided condition verdict))

theorem venturing_key (key : Text) :
    (Simulation.venturing ι lang scope.fields).Rel (scope.fillKey ask key)
      (scope.ventureKey ask' key) := by
  let R := Simulation.venturing ι lang scope.fields
  have value : R.Rel (scope.resolve ask key) (scope.ventureValue ask' key) := by
    refine R.bind (venturing_ventured (Step.memoized key)) fun held => ?_
    cases held with
    | some value => exact R.pure _
    | none =>
      dsimp only
      cases bound : Field.find? key scope.fields with
      | some v => exact R.bind (venturing_compute (Field.computes_written bound)) fun _ => R.pure _
      | none => exact h key
  refine R.bind value fun found => ?_
  cases found with
  | some value => exact R.bind (venturing_ventured _) fun _ => R.pure value
  | none => exact R.bind (venturing_ventured _) fun _ => R.pure key

theorem venturing_holes (t : Template) :
    (Simulation.venturing ι lang scope.fields).Rel (scope.fillHoles ask t)
      (scope.ventureHoles ask' t) := by
  rw [fillHoles_eq]
  exact Simulation.fillWith _ (venturing_condition h) (venturing_key h) t

end Asking

end Filling

variable [DecidableEq ι]

/-- A stored key goes through or is given up. The induction is on the room that is left. -/
theorem venturing_stored (scope : Scope ι lang) (room : Nat) (chain : List Text) (key : Text) :
    (Simulation.venturing ι lang scope.fields).Rel (scope.stored room chain key)
      (scope.ventureStored room chain key) := by
  let R := Simulation.venturing ι lang scope.fields
  cases hs : scope.store with
  | none =>
    unfold stored ventureStored
    simp only [hs]
    exact R.pure none
  | some store =>
  have refused (n : Note) : R.Rel (do Step.say scope.tracing n; return (none : Option Text))
      (do (Step.say scope.tracing n).ventured; return none) :=
    R.bind (venturing_ventured _) fun _ => R.pure none
  induction room generalizing chain key with
  | zero =>
    unfold stored ventureStored
    simp only [hs, List.contains_iff_mem]
    split
    · exact refused _
    · exact refused _
  | succ room ih =>
    unfold stored ventureStored
    simp only [hs, List.contains_iff_mem]
    split
    · exact refused _
    · refine R.bind (venturing_ventured (Step.fetch store scope.language chain key)) ?_
      intro fetched
      cases fetched with
      | none => exact R.pure none
      | some raw =>
        refine R.bind (venturing_holes (fun name => ih _ name) (Template.read raw)) fun value => ?_
        exact R.bind (venturing_ventured _) fun _ => R.pure (some value)

/-- A venture goes like the expansion, or is given up over the digits of a field. -/
theorem ventureExpand_run (scope : Scope ι lang) (template : Text) (run : Run ι lang) :
    let done := scope.expand template run
    scope.ventureExpand template run = (.ok done.1, done.2) ∨
      ((scope.ventureExpand template run).1 = .error .tooLong ∧ Field.SomeTooLong scope.fields) :=
  venturing_holes (venturing_stored scope scope.maxDepth.toNat []) (Template.read template) run

end Scope

end Phrasebook
