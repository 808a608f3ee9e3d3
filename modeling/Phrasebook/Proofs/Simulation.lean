import Phrasebook.Expansion.Basic
import Phrasebook.Proofs.Template.Stretches

/-!
# Two evaluations side by side

Conditions are evaluated in any monad, and so are the holes of a template once it is said
how conditions are judged and keys are valued (`Template.fillWith`). Two evaluations of one
text therefore go through the same steps, and what holds of their steps one by one holds of
the whole. A `Simulation` is a relation between computations that this reasoning needs
nothing else of: it holds of equal values, and sequencing keeps it. The laws below carry a
simulation from names to conditions and from conditions and keys to templates; tracing,
memo, depth and chain are the business of whoever picks the relation. Only stretches of a text
are ever met while it is evaluated, so the laws ask for no more than those.
-/

namespace Phrasebook

/-- A relation between the computations of two monads that holds of equal values and that
sequencing keeps. Related computations hand on the same value. -/
structure Simulation (m n : Type → Type) [Monad m] [Monad n] where
  Rel : ∀ {α : Type}, m α → n α → Prop
  pure : ∀ {α : Type} (a : α), Rel (Pure.pure a : m α) (Pure.pure a : n α)
  bind : ∀ {α β : Type} {x : m α} {y : n α} {f : α → m β} {g : α → n β},
    Rel x y → (∀ a, Rel (f a) (g a)) → Rel (x >>= f) (y >>= g)

/-- A property of computations that values have and sequencing keeps is a simulation of a
monad by itself. -/
def Simulation.ofKept {m : Type → Type} [Monad m] (P : ∀ {α : Type}, m α → Prop)
    (pure : ∀ {α : Type} (a : α), P (Pure.pure a : m α))
    (bind : ∀ {α β : Type} {x : m α} {f : α → m β}, P x → (∀ a, P (f a)) → P (x >>= f)) :
    Simulation m m where
  Rel x _ := P x
  pure a := pure a
  bind hx hf := bind hx hf

/-- An action that a simulation of a monad by itself keeps. -/
abbrev Simulation.Keeps {m : Type → Type} [Monad m] (R : Simulation m m) {α : Type}
    (act : m α) : Prop := R.Rel act act

section Filling

variable {m : Type → Type} [Monad m]

/-- What a directive is filled with, given the verdicts on conditions and the values of
keys. -/
def Directive.fillWith (judge : Text → m (Option Bool)) (value : Text → m Text) :
    Directive → m Text
  | .key name => value name
  | .nothing => return []
  | .choose condition whenTrue whenFalse => do
    match ← judge condition, whenFalse with
    | some true, _ => value whenTrue
    | some false, some other => value other
    | some false, none => return []
    | none, _ => return []

/-- Fill the holes of a template from left to right, given the verdicts on conditions and
the values of keys. -/
def Template.fillWith (judge : Text → m (Option Bool)) (value : Text → m Text) :
    Template → m Text
  | .ends lead => return lead
  | .unclosed lead _ => return lead
  | .hole lead key rest => do
    let value' ← (Directive.read key).fillWith judge value
    let others ← rest.fillWith judge value
    return lead ++ value' ++ others

end Filling

section Scope

variable {ι lang : Type}

theorem Scope.fill_eq (scope : Scope ι lang) (ask : Text → Step ι lang (Option Text))
    (raw : Text) :
    scope.fill ask raw =
      (Directive.read raw).fillWith (scope.evaluate ask) (scope.fillKey ask) := by
  unfold Scope.fill Directive.fillWith
  cases Directive.read raw <;> rfl

/-- Filling holes in a scope is filling them with the scope's verdicts and values. -/
theorem Scope.fillHoles_eq (scope : Scope ι lang) (ask : Text → Step ι lang (Option Text))
    (t : Template) :
    scope.fillHoles ask t = t.fillWith (scope.evaluate ask) (scope.fillKey ask) := by
  induction t with
  | ends lead => rfl
  | unclosed lead tail => rfl
  | hole lead key rest ih => rw [Scope.fillHoles, Template.fillWith, ih, Scope.fill_eq]

end Scope

namespace Simulation

variable {m n : Type → Type} [Monad m] [Monad n]

section Conditions

variable {fields : List (Option Field)}
variable {ask : Text → m (Option Text)} {ask' : Text → n (Option Text)}
variable {note : Text → Option Bool → m Unit} {note' : Text → Option Bool → n Unit}

/-- A related answer for every name of a condition that no field binds and a related note of
every verdict give a related verdict of the inner layer. -/
theorem evaluateAtom_of_infix (R : Simulation m n) {condition : Text}
    (hask : ∀ name, name <:+: condition → Field.find? name fields = none →
      R.Rel (ask name) (ask' name))
    (hnote : ∀ verdict, R.Rel (note condition verdict) (note' condition verdict)) :
    R.Rel (Condition.evaluateAtom fields (some ask) note condition)
      (Condition.evaluateAtom fields (some ask') note' condition) := by
  refine R.bind ?_ fun verdict => R.bind (hnote verdict) fun _ => R.pure verdict
  cases atom : Condition.Atom.read condition with
  | compare key literal differ => exact R.pure _
  | bare name invert =>
    have stretch : name <:+: condition := Condition.Atom.infix_of_read atom
    simp only [Condition.Atom.decide]
    cases field : Field.find? name fields with
    | some v => exact R.pure _
    | none => exact R.bind (hask name stretch field) fun stored => R.pure _

theorem evaluateAtom (R : Simulation m n)
    (hask : ∀ name, Field.find? name fields = none → R.Rel (ask name) (ask' name))
    (hnote : ∀ condition verdict, R.Rel (note condition verdict) (note' condition verdict))
    (condition : Text) :
    R.Rel (Condition.evaluateAtom fields (some ask) note condition)
      (Condition.evaluateAtom fields (some ask') note' condition) :=
  R.evaluateAtom_of_infix (fun name _ => hask name) (hnote condition)

theorem someTrue (R : Simulation m n) {f : Text → m (Option Bool)} {g : Text → n (Option Bool)}
    {sides : List Text} (h : ∀ side ∈ sides, R.Rel (f side) (g side)) :
    R.Rel (Condition.someTrue f sides) (Condition.someTrue g sides) := by
  induction sides with
  | nil => exact R.pure false
  | cons side sides ih =>
    obtain ⟨first, others⟩ := List.forall_mem_cons.1 h
    refine R.bind first fun verdict => ?_
    split
    · exact R.pure true
    · exact ih others

theorem everyTrue (R : Simulation m n) {f : Text → m (Option Bool)} {g : Text → n (Option Bool)}
    {sides : List Text} (h : ∀ side ∈ sides, R.Rel (f side) (g side)) :
    R.Rel (Condition.everyTrue f sides) (Condition.everyTrue g sides) := by
  induction sides with
  | nil => exact R.pure true
  | cons side sides ih =>
    obtain ⟨first, others⟩ := List.forall_mem_cons.1 h
    refine R.bind first fun verdict => ?_
    split
    · exact ih others
    · exact R.pure false

variable {asks : Option (Text → m (Option Text))} {asks' : Option (Text → n (Option Text))}

theorem evaluateSides (R : Simulation m n) {condition : Text}
    (hatom : ∀ c, c <:+: condition → R.Rel (Condition.evaluateAtom fields asks note c)
      (Condition.evaluateAtom fields asks' note' c)) :
    R.Rel (Condition.evaluateSides fields asks note condition)
      (Condition.evaluateSides fields asks' note' condition) := by
  have whole := hatom condition (List.infix_refl condition)
  unfold Condition.evaluateSides
  split
  · refine R.bind (R.someTrue fun side hside => hatom _ ?_) fun found => ?_
    · exact (Text.trim_infix side).trans (Text.infix_of_mem_splitPair hside)
    · cases found with
      | true => exact R.pure _
      | false => exact whole
  · exact whole

/-- The outer layers only sequence verdicts of the inner one on stretches of the text. -/
theorem evaluate_of_infix (R : Simulation m n) {expression : Text}
    (hatom : ∀ c, c <:+: expression → R.Rel (Condition.evaluateAtom fields asks note c)
      (Condition.evaluateAtom fields asks' note' c)) :
    R.Rel (Condition.evaluate fields asks note expression)
      (Condition.evaluate fields asks' note' expression) := by
  have within {side : Text} (h : side <:+: Text.trim expression) : R.Rel
      (Condition.evaluateSides fields asks note side)
      (Condition.evaluateSides fields asks' note' side) :=
    R.evaluateSides fun c hc => hatom c ((hc.trans h).trans (Text.trim_infix expression))
  simp only [Condition.evaluate]
  split
  · refine R.bind (R.everyTrue fun side hside => within ?_) fun all => R.pure _
    exact (Text.trim_infix side).trans (Text.infix_of_mem_splitPair hside)
  · exact within (List.infix_refl _)

theorem evaluate (R : Simulation m n)
    (hatom : ∀ condition, R.Rel (Condition.evaluateAtom fields asks note condition)
      (Condition.evaluateAtom fields asks' note' condition)) (expression : Text) :
    R.Rel (Condition.evaluate fields asks note expression)
      (Condition.evaluate fields asks' note' expression) :=
  R.evaluate_of_infix fun c _ => hatom c

end Conditions

section Holes

variable {judge : Text → m (Option Bool)} {judge' : Text → n (Option Bool)}
variable {value : Text → m Text} {value' : Text → n Text}

theorem fillDirective (R : Simulation m n) {text : Text} {d : Directive} (within : d.Within text)
    (hjudge : ∀ condition, condition <:+: text → R.Rel (judge condition) (judge' condition))
    (hvalue : ∀ key, key <:+: text → R.Rel (value key) (value' key)) :
    R.Rel (d.fillWith judge value) (d.fillWith judge' value') := by
  cases d with
  | key key => exact hvalue key within
  | nothing => exact R.pure []
  | choose condition whenTrue whenFalse =>
    obtain ⟨hcondition, htrue, hfalse⟩ := within
    refine R.bind (hjudge condition hcondition) fun verdict => ?_
    match verdict, whenFalse with
    | some true, _ => exact hvalue whenTrue htrue
    | some false, some other => exact hvalue other (hfalse other rfl)
    | some false, none => exact R.pure []
    | none, _ => exact R.pure []

/-- Related verdicts and related values of the stretches of a text fill its template alike. -/
theorem fillWith_of_infix (R : Simulation m n) {t : Template}
    (hjudge : ∀ condition, condition <:+: t.source → R.Rel (judge condition) (judge' condition))
    (hvalue : ∀ key, key <:+: t.source → R.Rel (value key) (value' key)) :
    R.Rel (t.fillWith judge value) (t.fillWith judge' value') := by
  induction t with
  | ends lead => exact R.pure lead
  | unclosed lead tail => exact R.pure lead
  | hole lead key rest ih =>
    have hkey : key <:+: (Template.hole lead key rest).source :=
      ⟨lead ++ ['{', '{'], '}' :: '}' :: rest.source, by simp [Template.source]⟩
    have hrest : rest.source <:+: (Template.hole lead key rest).source :=
      ⟨lead ++ '{' :: '{' :: key ++ ['}', '}'], [], by simp [Template.source]⟩
    have first : R.Rel ((Directive.read key).fillWith judge value)
        ((Directive.read key).fillWith judge' value') :=
      R.fillDirective (Directive.within_read key) (fun condition h => hjudge condition (h.trans hkey))
        fun name h => hvalue name (h.trans hkey)
    have others := ih (fun condition h => hjudge condition (h.trans hrest))
      fun name h => hvalue name (h.trans hrest)
    exact R.bind first fun filled => R.bind others fun others => R.pure (lead ++ filled ++ others)

theorem fillWith (R : Simulation m n)
    (hjudge : ∀ condition, R.Rel (judge condition) (judge' condition))
    (hvalue : ∀ key, R.Rel (value key) (value' key)) (t : Template) :
    R.Rel (t.fillWith judge value) (t.fillWith judge' value') :=
  R.fillWith_of_infix (fun condition _ => hjudge condition) fun key _ => hvalue key

end Holes

end Simulation

end Phrasebook
