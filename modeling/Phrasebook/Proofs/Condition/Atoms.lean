import Phrasebook.Condition
import Phrasebook.Proofs.Text.Pairs

/-!
# How atoms are read

The inner layer of a condition looks for `==`, then for `!=`, and takes what has neither for a name.
White space around the whole and around the parts makes no difference (`Atom.comparison_trim`). So a
comparison that is written with white space around its operator is read back with its two sides
(`Atom.read_spaced`): the white space keeps the signs at the ends of the sides apart from those
of the operator.
-/

namespace Phrasebook.Condition

/-- A text has none of the signs that split a condition. -/
structure Plain (s : Text) : Prop where
  conjunction : Text.hasPair '&' '&' s = false
  disjunction : Text.hasPair '|' '|' s = false
  equation : Text.hasPair '=' '=' s = false
  difference : Text.hasPair '!' '=' s = false

namespace Atom

/-- A comparison is read from the trimmed pieces around its operator. -/
theorem comparison_eq (a : Char) (differ : Bool) (condition : Text) :
    comparison a differ condition =
      match (Text.splitPair a '=' condition).map Text.trim with
      | key :: literal :: _ => .compare key literal differ
      | [key] => .compare key [] differ
      | [] => .compare [] [] differ := by
  unfold comparison
  match Text.splitPair a '=' condition with
  | [] => rfl
  | [_] => rfl
  | _ :: _ :: _ => rfl

theorem comparison_trim {a : Char} (ha : Text.isBlank a = false) (differ : Bool)
    (condition : Text) :
    comparison a differ (Text.trim condition) = comparison a differ condition := by
  rw [comparison_eq, comparison_eq, Text.map_trim_splitPair_trim ha (by decide)]

section Operators

variable {condition : Text}

theorem read_equation (h : Text.hasPair '=' '=' condition = true) :
    read condition = comparison '=' false condition := by
  unfold read
  rw [if_pos h]

theorem read_difference (heq : Text.hasPair '=' '=' condition = false)
    (h : Text.hasPair '!' '=' condition = true) :
    read condition = comparison '!' true condition := by
  unfold read
  rw [if_neg (Bool.eq_false_iff.1 heq), if_pos h]

theorem read_name (heq : Text.hasPair '=' '=' condition = false)
    (hne : Text.hasPair '!' '=' condition = false) (first : condition.head? ≠ some '!') :
    read condition = .bare condition false := by
  unfold read
  rw [if_neg (Bool.eq_false_iff.1 heq), if_neg (Bool.eq_false_iff.1 hne)]
  split
  · exact absurd rfl first
  · rfl

theorem read_inverted (heq : Text.hasPair '=' '=' ('!' :: condition) = false)
    (hne : Text.hasPair '!' '=' ('!' :: condition) = false) :
    read ('!' :: condition) = .bare (Text.trim condition) true := by
  unfold read
  rw [if_neg (Bool.eq_false_iff.1 heq), if_neg (Bool.eq_false_iff.1 hne)]
  rfl

end Operators

section Written

variable {key literal : Text}

/-- White space keeps pairs from lying across. -/
theorem hasPair_spaced {a b : Char} (ha : a ≠ ' ') (hb : b ≠ ' ') (key sign literal : Text) :
    Text.hasPair a b (key ++ ' ' :: (sign ++ ' ' :: literal)) =
      (Text.hasPair a b key || (Text.hasPair a b sign || Text.hasPair a b literal)) := by
  have behind (s : Text) : Text.hasPair a b (' ' :: s) = Text.hasPair a b s :=
    Text.hasPair_append_of_not_mem (s := [' ']) (by simpa using ha) s
  rw [Text.hasPair_append_apart (by simpa using fun _ => Ne.symm hb), behind,
    Text.hasPair_append_apart (by simpa using fun _ => Ne.symm hb), behind]

/-- The sides of an operator with white space around it. -/
theorem comparison_spaced {a : Char} (ha : a ≠ ' ') (differ : Bool)
    (hkey : Text.hasPair a '=' key = false) (hliteral : Text.hasPair a '=' literal = false) :
    comparison a differ (key ++ ' ' :: ([a, '='] ++ ' ' :: literal)) =
      .compare (Text.trim key) (Text.trim literal) differ := by
  have front : Text.hasPair a '=' (key ++ [' ']) = false := by
    rw [Text.hasPair_append_apart (by simp), hkey]
    rfl
  have back : Text.hasPair a '=' (' ' :: literal) = false := by
    rw [← hliteral]
    exact Text.hasPair_append_of_not_mem (s := [' ']) (by simpa using ha) literal
  have pieces : Text.splitPair a '=' (key ++ ' ' :: ([a, '='] ++ ' ' :: literal)) =
      [key ++ [' '], ' ' :: literal] := by
    have split := Text.splitPair_append (a := a) (b := '=') (s := key ++ [' '])
      (by simpa using Ne.symm ha) (' ' :: literal)
    rw [Text.splitPair_of_not_hasPair front, Text.splitPair_of_not_hasPair back] at split
    simpa using split
  have blank : ∀ c ∈ [' '], Text.isBlank c = true := List.forall_mem_singleton.2 rfl
  unfold comparison
  rw [pieces]
  simp only [Text.trim_append_blank blank, ← Text.trim_blank_append blank literal]
  rfl

/-- The sign between the sides of a comparison. -/
def sign (differ : Bool) : Text := if differ then ['!', '='] else ['=', '=']

/-- A comparison that is written with white space around its sign is read back. -/
theorem read_spaced (hkey : Plain key) (hliteral : Plain literal) (differ : Bool) :
    read (Text.trim (key ++ ' ' :: (sign differ ++ ' ' :: literal))) =
      .compare (Text.trim key) (Text.trim literal) differ := by
  have pairs (a : Char) (ha : Text.isBlank a = false) (hne : a ≠ ' ') :
      Text.hasPair a '=' (Text.trim (key ++ ' ' :: (sign differ ++ ' ' :: literal))) =
        (Text.hasPair a '=' key || (Text.hasPair a '=' (sign differ) ||
          Text.hasPair a '=' literal)) := by
    rw [Text.hasPair_trim ha (by decide), hasPair_spaced hne (by decide)]
  have equation := pairs '=' (by decide) (by decide)
  rw [hkey.equation, hliteral.equation] at equation
  cases differ with
  | false =>
    rw [read_equation equation, comparison_trim (by decide)]
    exact comparison_spaced (by decide) false hkey.equation hliteral.equation
  | true =>
    have difference := pairs '!' (by decide) (by decide)
    rw [hkey.difference, hliteral.difference] at difference
    rw [read_difference equation difference, comparison_trim (by decide)]
    exact comparison_spaced (by decide) true hkey.difference hliteral.difference

end Written

end Atom

end Phrasebook.Condition
