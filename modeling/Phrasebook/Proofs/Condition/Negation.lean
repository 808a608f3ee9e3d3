import Phrasebook.Proofs.Condition.Atoms
import Phrasebook.Proofs.Condition.Composition

/-!
# Negation of atoms

A comparison with `!=` is the negation of the one with `==`, and a name with `!` before it is the
negation of the name, as far as the verdict is known (`atoms_negate`). What has to be seen is that
the sign that is written is the one that is read. The white space around the sign of a comparison
keeps it apart from its sides; `!` makes a sign with what is behind it only if that starts with `=`,
and a name that starts with `!` is a negation already.
-/

namespace Phrasebook.Condition

variable {m : Type → Type} [Monad m]
variable {fields : List (Option Field)} {ask : Option (Text → m (Option Text))}
variable {note : Text → Option Bool → m Unit} {stored : Option (Text → Option Text)}

/-- What a comparison sees of a value: the small form of its trimmed wording. -/
def seen (value : Scalar) : Text := Text.lower (Text.trim value.wording)

/-- What the fields say of an equation. The first field with the key counts, and without one nothing
is known. -/
def equates (fields : List (Option Field)) (key literal : Text) : Option Bool :=
  ((Field.find? (Text.trim key) fields).map seen).map (· == Text.lower (Text.trim literal))

namespace Plain

variable {key literal name : Text}

/-- Two plain texts with the sign of a comparison between them have no other signs. -/
theorem spaced (hkey : Plain key) (hliteral : Plain literal) (differ : Bool) :
    Text.hasPair '&' '&' (key ++ ' ' :: (Atom.sign differ ++ ' ' :: literal)) = false ∧
    Text.hasPair '|' '|' (key ++ ' ' :: (Atom.sign differ ++ ' ' :: literal)) = false := by
  rw [Atom.hasPair_spaced (by decide) (by decide), Atom.hasPair_spaced (by decide) (by decide),
    hkey.conjunction, hkey.disjunction, hliteral.conjunction, hliteral.disjunction]
  cases differ <;> decide

theorem not (h : Plain name) (first : (Text.trim name).head? ≠ some '=') : Plain ('!' :: name) := by
  have apart : name.head? ≠ some '=' := by
    intro same
    obtain ⟨rest, rfl⟩ := List.head?_eq_some_iff.1 same
    have trimmed : Text.trim ('=' :: rest) = _ := Text.trim_append_cons (by decide) [] rest
    rw [trimmed] at first
    exact first rfl
  have pair (a b : Char) (h : Text.hasPair a b name = false) (hb : b = '=' ∨ a ≠ '!') :
      Text.hasPair a b ('!' :: name) = false := by
    change Text.hasPair a b (['!'] ++ name) = false
    rw [Text.hasPair_append_apart, h]
    · rfl
    · rintro ⟨last, front⟩
      rcases hb with rfl | other
      · exact apart front
      · exact other (Option.some.inj last).symm
  exact ⟨pair _ _ h.conjunction (.inr (by decide)), pair _ _ h.disjunction (.inr (by decide)),
    pair _ _ h.equation (.inl rfl), pair _ _ h.difference (.inl rfl)⟩

theorem trim (h : Plain name) : Plain (Text.trim name) :=
  have inside : Text.trim name <:+: name := Text.trim_infix name
  ⟨Text.hasPair_of_infix inside h.conjunction, Text.hasPair_of_infix inside h.disjunction,
    Text.hasPair_of_infix inside h.equation, Text.hasPair_of_infix inside h.difference⟩

/-- A plain text that is no negation is read as a name. -/
theorem read_name (h : Plain name) (first : (Text.trim name).head? ≠ some '!') :
    Atom.read (Text.trim name) = .bare (Text.trim name) false :=
  Atom.read_name h.trim.equation h.trim.difference first

/-- With `!` before it, it is read as the same name turned around. -/
theorem read_not (h : Plain name) (first : (Text.trim name).head? ≠ some '=') :
    Atom.read (Text.trim ('!' :: name)) = .bare (Text.trim name) true := by
  have trimmed : Text.trim ('!' :: name) = '!' :: name.rdropWhile Text.isBlank :=
    Text.trim_append_cons (by decide) [] name
  have plain := (h.not first).trim
  rw [trimmed] at plain ⊢
  rw [Atom.read_inverted plain.equation plain.difference, Text.trim_rdropWhile]

end Plain

section Verdicts

theorem negateIf_false (verdict : Option Bool) : negateIf false verdict = verdict := by
  cases verdict with
  | none => rfl
  | some b => cases b <;> rfl

theorem negateIf_true (verdict : Option Bool) : negateIf true verdict = verdict.map (!·) := by
  cases verdict with
  | none => rfl
  | some b => cases b <;> rfl

/-- The verdict on a comparison is that of the equation, turned around or not, and nothing is
asked. -/
theorem decide_compare (key literal : Text) (differ : Bool) :
    (Atom.compare (Text.trim key) (Text.trim literal) differ).decide fields ask =
      pure (negateIf differ (equates fields key literal)) := by
  rw [Atom.decide, equates, Option.map_map]
  rfl

/-- The name is asked for in the same way, whether the verdict is turned around or not. -/
theorem decide_inverted [LawfulMonad m] (name : Text) :
    (Atom.bare name true).decide fields ask =
      Option.map (!·) <$> (Atom.bare name false).decide fields ask := by
  simp only [Atom.decide, negateIf_true, negateIf_false]
  cases Field.find? name fields with
  | some v => simp
  | none =>
    cases ask with
    | none => simp
    | some ask => simp

section Spaced

variable {key literal : Text} (hkey : Plain key) (hliteral : Plain literal) (differ : Bool)
include hkey hliteral

theorem evaluate_spaced [LawfulMonad m] :
    let condition := key ++ ' ' :: (Atom.sign differ ++ ' ' :: literal)
    evaluate fields ask note condition = (do
      note (Text.trim condition) (negateIf differ (equates fields key literal))
      pure (negateIf differ (equates fields key literal))) := by
  obtain ⟨conjunction, disjunction⟩ := hkey.spaced hliteral differ
  dsimp only
  rw [evaluate_atom conjunction disjunction, evaluateAtom, Atom.read_spaced hkey hliteral,
    decide_compare, pure_bind]

theorem inquire_spaced :
    let condition := key ++ ' ' :: (Atom.sign differ ++ ' ' :: literal)
    (inquire fields stored condition).1 = negateIf differ (equates fields key literal) ∧
      (inquire fields stored condition).2.asked = [] := by
  obtain ⟨conjunction, disjunction⟩ := hkey.spaced hliteral differ
  obtain ⟨verdict, asked⟩ := @inquire_atom fields stored _ conjunction disjunction
  rw [Atom.read_spaced hkey hliteral] at verdict asked
  rw [Atom.verdict, decide_compare] at verdict
  exact ⟨verdict, asked⟩

end Spaced

section Names

variable {name : Text} (h : Plain name)
include h

theorem evaluate_name (first : (Text.trim name).head? ≠ some '!') :
    evaluate fields ask note name = (do
      let verdict ← (Atom.bare (Text.trim name) false).decide fields ask
      note (Text.trim name) verdict
      pure verdict) := by
  rw [evaluate_atom h.conjunction h.disjunction, evaluateAtom, h.read_name first]

theorem evaluate_not [LawfulMonad m] (first : (Text.trim name).head? ≠ some '=') :
    evaluate fields ask note ('!' :: name) = (do
      let verdict ← (Atom.bare (Text.trim name) false).decide fields ask
      note (Text.trim ('!' :: name)) (verdict.map (!·))
      pure (verdict.map (!·))) := by
  rw [evaluate_atom (h.not first).conjunction (h.not first).disjunction, evaluateAtom,
    h.read_not first, decide_inverted, bind_map_left]

theorem inquire_not (first : (Text.trim name).head? ≠ some '!')
    (first' : (Text.trim name).head? ≠ some '=') :
    (inquire fields stored ('!' :: name)).1 = (inquire fields stored name).1.map (!·) ∧
      (inquire fields stored ('!' :: name)).2.asked = (inquire fields stored name).2.asked := by
  obtain ⟨verdict, asked⟩ := @inquire_atom fields stored _ h.conjunction h.disjunction
  obtain ⟨turned, asked'⟩ :=
    @inquire_atom fields stored _ (h.not first').conjunction (h.not first').disjunction
  rw [h.read_name first] at verdict asked
  rw [h.read_not first'] at turned asked'
  rw [turned, verdict, asked, asked']
  exact ⟨congrArg Id.run (decide_inverted _), rfl⟩

end Names

end Verdicts

/-- **Negation of atoms.** Between two plain texts, and with white space around it, `!=` gives the
negation of what `==` gives, if that is known, in any monad that the store is asked in. Nothing is
asked, and of the fields nothing counts but the small form of the trimmed wording of the first one
with the key. A plain name that starts neither with `!` nor with `=` is asked for in the same way
with `!` before it, and the verdict is the negation, if it is known. -/
theorem atoms_negate [LawfulMonad m] (fields : List (Option Field))
    (ask : Option (Text → m (Option Text))) (note : Text → Option Bool → m Unit)
    (stored : Option (Text → Option Text)) :
    (∀ key literal, Plain key → Plain literal →
      let equal := key ++ " == ".toList ++ literal
      let differ := key ++ " != ".toList ++ literal
      let verdict := equates fields key literal
      evaluate fields ask note equal = (do
        note (Text.trim equal) verdict
        pure verdict) ∧
      evaluate fields ask note differ = (do
        note (Text.trim differ) (verdict.map (!·))
        pure (verdict.map (!·))) ∧
      (inquire fields stored equal).1 = verdict ∧ (inquire fields stored equal).2.asked = [] ∧
      (inquire fields stored differ).1 = verdict.map (!·) ∧
      (inquire fields stored differ).2.asked = [] ∧
      ∀ fields', (Field.find? (Text.trim key) fields').map seen =
          (Field.find? (Text.trim key) fields).map seen →
        (inquire fields' stored equal).1 = (inquire fields stored equal).1 ∧
        (inquire fields' stored differ).1 = (inquire fields stored differ).1) ∧
    ∀ name, Plain name → (Text.trim name).head? ≠ some '!' → (Text.trim name).head? ≠ some '=' →
      let decide := (Atom.bare (Text.trim name) false).decide fields ask
      evaluate fields ask note name = (do
        let verdict ← decide
        note (Text.trim name) verdict
        pure verdict) ∧
      evaluate fields ask note ('!' :: name) = (do
        let verdict ← decide
        note (Text.trim ('!' :: name)) (verdict.map (!·))
        pure (verdict.map (!·))) ∧
      (inquire fields stored ('!' :: name)).1 = (inquire fields stored name).1.map (!·) ∧
      (inquire fields stored ('!' :: name)).2.asked = (inquire fields stored name).2.asked := by
  constructor
  · intro key literal hkey hliteral equal differ verdict
    have equal_eq : equal = key ++ ' ' :: (Atom.sign false ++ ' ' :: literal) :=
      List.append_assoc key _ literal
    have differ_eq : differ = key ++ ' ' :: (Atom.sign true ++ ' ' :: literal) :=
      List.append_assoc key _ literal
    have equation (fields : List (Option Field)) : _ ∧ _ :=
      @inquire_spaced fields stored key literal hkey hliteral false
    have difference (fields : List (Option Field)) : _ ∧ _ :=
      @inquire_spaced fields stored key literal hkey hliteral true
    simp only [negateIf_false] at equation
    simp only [negateIf_true] at difference
    rw [equal_eq, differ_eq, evaluate_spaced hkey hliteral, evaluate_spaced hkey hliteral,
      negateIf_false, negateIf_true]
    refine ⟨rfl, rfl, (equation fields).1, (equation fields).2, (difference fields).1,
      (difference fields).2, fun fields' same => ?_⟩
    have verdicts : equates fields' key literal = equates fields key literal :=
      congrArg (Option.map _) same
    rw [(equation fields').1, (difference fields').1, verdicts]
    exact ⟨(equation fields).1.symm, (difference fields).1.symm⟩
  · intro name h first first'
    exact ⟨evaluate_name h first, evaluate_not h first', inquire_not h first first'⟩

/-- A key that ends with half of a sign, and a literal that starts with the other half. -/
theorem atoms_negate_halves :
    let fields : List (Option Field) := [some ⟨"a!".toList, .text " =B".toList⟩]
    (inquire fields none "a! == =b".toList).1 = some true ∧
    (inquire fields none "a! != =b".toList).1 = some false ∧
    (inquire fields (some storedYes) "! yes".toList).1 = some false ∧
    (inquire fields (some storedYes) "! yes".toList).2.asked = [['y', 'e', 's']] := by
  intro fields
  obtain ⟨comparisons, -⟩ := atoms_negate (m := Id) fields none (fun _ _ => ()) none
  obtain ⟨-, -, equal, -, differ, -⟩ := comparisons "a!".toList "=b".toList
    ⟨by decide, by decide, by decide, by decide⟩ ⟨by decide, by decide, by decide, by decide⟩
  obtain ⟨-, names⟩ := atoms_negate (m := Id) fields none (fun _ _ => ()) (some storedYes)
  obtain ⟨-, -, turned, asked⟩ := names " yes".toList
    ⟨by decide, by decide, by decide, by decide⟩ (by decide) (by decide)
  have verdict : equates fields "a!".toList "=b".toList = some true := by decide +kernel
  rw [verdict] at equal differ
  exact ⟨equal, differ, turned.trans (by decide +kernel), asked.trans (by decide +kernel)⟩

end Phrasebook.Condition
