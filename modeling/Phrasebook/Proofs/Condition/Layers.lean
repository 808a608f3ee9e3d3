import Phrasebook.Condition
import Phrasebook.Proofs.Text.Cuts

/-!
# A condition is read in rounds

A reader of conditions may treat the sides of `&&` and `||` as conditions again and go on
with them (`Condition.round`). The sides get shorter, but that is not what ends it: a side
of `&&` has no `&&`, a side of `||` has neither sign, and an atom is not split. So three rounds
are enough, whatever would read on behind them (`round_round_round`), and there is one reader
that goes on with itself: the one in three layers (`evaluate_unique`).
-/

namespace Phrasebook.Condition

variable {m : Type → Type} [Monad m]
variable {fields : List (Option Field)} {ask : Option (Text → m (Option Text))}
variable {note : Text → Option Bool → m Unit}

/-- One round of reading a condition, with `reader` for the sides. -/
def round (fields : List (Option Field)) (ask : Option (Text → m (Option Text)))
    (note : Text → Option Bool → m Unit) (reader : Text → m (Option Bool)) (expression : Text) :
    m (Option Bool) := do
  let condition := Text.trim expression
  if Text.hasPair '&' '&' condition then
    let all ← everyTrue reader (Text.splitPair '&' '&' condition)
    pure (some all)
  else if Text.hasPair '|' '|' condition then
    let found ← someTrue reader (Text.splitPair '|' '|' condition)
    if found then pure (some true) else evaluateAtom fields ask note condition
  else evaluateAtom fields ask note condition

theorem someTrue_congr {f g : Text → m (Option Bool)} {sides : List Text}
    (h : ∀ side ∈ sides, f side = g side) : someTrue f sides = someTrue g sides := by
  induction sides with
  | nil => rfl
  | cons side sides ih =>
    obtain ⟨first, others⟩ := List.forall_mem_cons.1 h
    rw [someTrue, someTrue, first, ih others]

theorem everyTrue_congr {f g : Text → m (Option Bool)} {sides : List Text}
    (h : ∀ side ∈ sides, f side = g side) : everyTrue f sides = everyTrue g sides := by
  induction sides with
  | nil => rfl
  | cons side sides ih =>
    obtain ⟨first, others⟩ := List.forall_mem_cons.1 h
    rw [everyTrue, everyTrue, first, ih others]

variable (reader : Text → m (Option Bool))

theorem round_atom {side : Text} (hand : Text.hasPair '&' '&' side = false)
    (hor : Text.hasPair '|' '|' side = false) :
    round fields ask note reader side = evaluateAtom fields ask note (Text.trim side) := by
  rw [round]
  simp only [Text.hasPair_of_infix (Text.trim_infix side) hand,
    Text.hasPair_of_infix (Text.trim_infix side) hor, Bool.false_eq_true, if_false]

theorem round_sides {side : Text} (hand : Text.hasPair '&' '&' (Text.trim side) = false) :
    round fields ask note (round fields ask note reader) side =
      evaluateSides fields ask note (Text.trim side) := by
  have parts : ∀ part ∈ Text.splitPair '|' '|' (Text.trim side),
      round fields ask note reader part = evaluateAtom fields ask note (Text.trim part) :=
    fun part hpart =>
      round_atom reader (Text.hasPair_of_infix (Text.infix_of_mem_splitPair hpart) hand)
        (Text.hasPair_of_mem_splitPair hpart)
  rw [round, evaluateSides]
  simp only [hand, Bool.false_eq_true, if_false, someTrue_congr parts]

/-- After three rounds nothing is left for the reader that the third one is given. -/
theorem round_round_round (expression : Text) :
    round fields ask note (round fields ask note (round fields ask note reader)) expression =
      evaluate fields ask note expression := by
  rw [evaluate]
  cases hand : Text.hasPair '&' '&' (Text.trim expression) with
  | true =>
    have parts : ∀ part ∈ Text.splitPair '&' '&' (Text.trim expression),
        round fields ask note (round fields ask note reader) part =
          evaluateSides fields ask note (Text.trim part) := fun part hpart =>
      round_sides reader (Text.hasPair_of_infix (Text.trim_infix part)
        (Text.hasPair_of_mem_splitPair hpart))
    rw [round]
    simp only [hand, if_true, everyTrue_congr parts]
  | false =>
    simp only [Bool.false_eq_true, if_false]
    exact round_sides (round fields ask note reader) hand

variable {reader}

/-- The only reader that goes on with itself is the one in three layers. -/
theorem evaluate_unique (h : ∀ e, reader e = round fields ask note reader e) (expression : Text) :
    reader expression = evaluate fields ask note expression := by
  have again : round fields ask note reader = reader := (funext h).symm
  rw [← round_round_round reader, again, again, again]

end Phrasebook.Condition
