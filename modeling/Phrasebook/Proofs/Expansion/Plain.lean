import Phrasebook.Proofs.Simulation

/-!
# The plain expansion

The plain expansion of a template is the recursive substitution and nothing else: fields
first, then the stored text of a key, expanded in the same way, else the key. It reads
templates and conditions as every expansion does, but it keeps no memo, carries no chain and
knows no limit. So it need not end: `Scope.plainStored` is the least solution of its
equation, and has no value where the substitution goes on for ever.

`Scope.Tries` says where the plain expansion tries the store. A try is a key together with
the path of the keys that are being expanded at that moment, outermost first and in small
letters. The tries of one text are those of its holes up to the first one that never ends
(`Trial`), and below each of them the tries of the stored text.
-/

namespace Phrasebook

namespace Plain

variable {m : Type → Type} [Monad m]

/-- The value of a key: that of a field, else what `ask` answers, else the key itself. -/
def value (fields : List (Option Field)) (ask : Text → m (Option Text)) (key : Text) : m Text :=
  match Field.find? key fields with
  | some v => return v.wording
  | none => return (← ask key).getD key

/-- The verdict on a condition. -/
def judge (fields : List (Option Field)) (ask : Text → m (Option Text)) (condition : Text) :
    m (Option Bool) :=
  Condition.evaluate fields (some ask) (fun _ _ => pure ()) condition

/-- Fill the holes of a template. -/
def fill (fields : List (Option Field)) (ask : Text → m (Option Text)) (t : Template) : m Text :=
  t.fillWith (judge fields ask) (value fields ask)

end Plain

namespace Simulation

variable {m n : Type → Type} [Monad m] [Monad n]
variable {ask : Text → m (Option Text)} {ask' : Text → n (Option Text)}

/-- Related answers give related plain fillings. -/
theorem plainFill (R : Simulation m n) (fields : List (Option Field))
    (hask : ∀ key, R.Rel (ask key) (ask' key)) (t : Template) :
    R.Rel (Plain.fill fields ask t) (Plain.fill fields ask' t) := by
  refine R.fillWith (fun condition => ?_) (fun key => ?_) t
  · exact R.evaluate (R.evaluateAtom (fun key _ => hask key) fun _ _ => R.pure ()) condition
  · unfold Plain.value
    cases Field.find? key fields with
    | some v => exact R.pure _
    | none => exact R.bind (hask key) fun stored => R.pure _

/-- Computations that may not end, compared by how far they are defined. -/
def below : Simulation Option Option where
  Rel x y := ∀ a, x = some a → y = some a
  pure _ _ h := h
  bind {_ _ x y f g} hx hf b h := by
    obtain ⟨a, ha, hb⟩ := Option.bind_eq_some_iff.1 h
    exact Option.bind_eq_some_iff.2 ⟨a, hx a ha, hf a b hb⟩

end Simulation

namespace Scope

variable {ι lang : Type}

/-- The text that the store holds for a key, if it holds a text. -/
def text? (scope : Scope ι lang) (key : Text) : Option Text :=
  match scope.store.bind fun store => store key scope.language with
  | some (.text raw) => some raw
  | _ => none

/-- The plain expansion of a stored key; the inner nothing is a key that is not stored. -/
def plainStored (scope : Scope ι lang) (key : Text) : Option (Option Text) :=
  match scope.text? key with
  | none => some none
  | some raw => do
    return some
      (← Plain.fill scope.fields (fun name => scope |>.plainStored name) (Template.read raw))
partial_fixpoint monotonicity by
  intro f g hfg key
  have inner (name : Text) : Simulation.below.Rel (f name) (g name) := by
    intro a ha
    have h := hfg name
    cases hg : g name <;> rw [ha, hg] at h <;> cases h
    rfl
  dsimp only
  split
  · constructor
  · next raw _ =>
    have outer := Simulation.below.bind
      (Simulation.below.plainFill scope.fields inner (Template.read raw))
      fun value => Simulation.below.pure (some value)
    revert outer
    -- the order of the least solution is that of `below`
    generalize (Plain.fill scope.fields f (Template.read raw) >>= _) = x
    generalize (Plain.fill scope.fields g (Template.read raw) >>= _) = y
    intro outer
    cases x with
    | none => constructor
    | some a => rw [outer a rfl]; constructor

/-- The plain expansion of a template. -/
def plain (scope : Scope ι lang) (template : Text) : Option Text :=
  Plain.fill scope.fields scope.plainStored (Template.read template)

end Scope

/-- A computation that may not end, with the keys that it tries the store for until then. -/
structure Trial (α : Type) where
  value : Option α
  tried : List Text

namespace Trial

variable {α β : Type}

/-- Perform one computation after another; what stands behind one that never ends is not
reached. -/
def andThen (x : Trial α) (f : α → Trial β) : Trial β :=
  match x.value with
  | none => ⟨none, x.tried⟩
  | some a => ⟨(f a).value, x.tried ++ (f a).tried⟩

instance : Monad Trial where
  pure a := ⟨some a, []⟩
  bind := andThen

theorem value_bind (x : Trial α) (f : α → Trial β) :
    (x >>= f).value = x.value >>= fun a => (f a).value := by
  change (x.andThen f).value = _
  unfold andThen
  cases x.value <;> rfl

theorem bind_of_value {x : Trial α} {a : α} (h : x.value = some a) (f : α → Trial β) :
    x >>= f = ⟨(f a).value, x.tried ++ (f a).tried⟩ := by
  change x.andThen f = _
  simp [andThen, h]

theorem tried_subset_bind (x : Trial α) (f : α → Trial β) : x.tried ⊆ (x >>= f).tried := by
  change x.tried ⊆ (x.andThen f).tried
  unfold andThen
  cases x.value with
  | none => exact List.Subset.refl _
  | some a => exact List.subset_append_left _ _

/-- The value of a trial, without its tries. -/
def erasure : Simulation Trial Option where
  Rel x y := x.value = y
  pure _ := rfl
  bind {_ _ x y f g} hx hf := by
    rw [value_bind, hx]
    exact congrArg (y >>= ·) (funext hf)

end Trial

namespace Scope

variable {ι lang : Type}

/-- Try the store, if there is one, for a key. -/
def attempt (scope : Scope ι lang) (key : Text) : Trial (Option Text) :=
  ⟨scope.plainStored key, if scope.store.isSome then [key] else []⟩

/-- The plain expansion of a template with the keys that its own holes try the store for. -/
def trial (scope : Scope ι lang) (template : Text) : Trial Text :=
  Plain.fill scope.fields scope.attempt (Template.read template)

theorem value_trial (scope : Scope ι lang) (template : Text) :
    (scope.trial template).value = scope.plain template :=
  Trial.erasure.plainFill scope.fields (fun _ => rfl) _

theorem plainStored_of_text {scope : Scope ι lang} {key raw : Text}
    (h : scope.text? key = some raw) : scope.plainStored key = (scope.plain raw).map some := by
  rw [plainStored, h]
  change (scope.plain raw >>= fun value => some (some value)) = _
  cases scope.plain raw <;> rfl

theorem plainStored_of_not_text {scope : Scope ι lang} {key : Text} (h : scope.text? key = none) :
    scope.plainStored key = some none := by
  rw [plainStored, h]

/-- The plain expansion of a template tries the store for a key while the keys of a path are
being expanded. -/
inductive Tries (scope : Scope ι lang) : Text → List Text → Text → Prop where
  | own {template key : Text} (tried : key ∈ (scope.trial template).tried) :
    Tries scope template [] key
  | nested {template name raw key : Text} {path : List Text}
    (tried : name ∈ (scope.trial template).tried) (stored : scope.text? name = some raw)
    (inner : Tries scope raw path key) : Tries scope template (Text.lower name :: path) key

end Scope

end Phrasebook
