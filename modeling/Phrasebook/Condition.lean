import Phrasebook.Field

/-!
# Conditions

A condition is read in three layers, each of which trims its text first. The outer layer
splits it at `&&`, and every side has to be a known truth. The middle layer splits a side
at `||`, and one known truth is enough; if there is none, the whole text falls through to
the inner layer. That layer reads `key == literal`, `key != literal`, or a name that may
have `!` before it. The answer is unknown when nothing is bound to the name.

Names are looked up in the fields and then, if there is one, asked of `ask`, which is an
action of some monad: the store answers it while a template is expanded. Every verdict of
the inner layer is handed to `note`.
-/

namespace Phrasebook

namespace Condition

/-- The parts of a condition at the inner layer. -/
inductive Atom where
  /-- The field's wording against a literal, and whether they have to differ. -/
  | compare (key literal : Text) (differ : Bool)
  /-- The truth of a name, and whether it is turned around. -/
  | bare (name : Text) (invert : Bool)
  deriving DecidableEq, Repr

/-- The comparison around the first occurrence of an operator. -/
def Atom.comparison (a : Char) (differ : Bool) (condition : Text) : Atom :=
  match Text.splitPair a '=' condition with
  | key :: literal :: _ => .compare (Text.trim key) (Text.trim literal) differ
  | [key] => .compare (Text.trim key) [] differ
  | [] => .compare [] [] differ

/-- Read a trimmed condition at the inner layer. -/
def Atom.read (condition : Text) : Atom :=
  if Text.hasPair '=' '=' condition then comparison '=' false condition
  else if Text.hasPair '!' '=' condition then comparison '!' true condition
  else
    match condition with
    | '!' :: rest => .bare (Text.trim rest) true
    | name => .bare name false

/-- Turn a known verdict around. -/
def negateIf (invert : Bool) (verdict : Option Bool) : Option Bool :=
  verdict.map fun b => b != invert

/-- Compare without regard to case or to white space around the field's wording. -/
def agrees (value : Scalar) (literal : Text) : Bool :=
  Text.lower (Text.trim value.wording) == Text.lower literal

variable {m : Type → Type} [Monad m]

/-- The verdict on an atom. -/
def Atom.decide (fields : List (Option Field)) (ask : Option (Text → m (Option Text))) :
    Atom → m (Option Bool)
  | .compare key literal differ =>
    pure (negateIf differ ((Field.find? key fields).map fun v => agrees v literal))
  | .bare name invert =>
    match Field.find? name fields, ask with
    | some v, _ => pure (negateIf invert (some v.holds))
    | none, none => pure none
    | none, some ask => do
      let stored ← ask name
      pure (negateIf invert (stored.map Scalar.textHolds))

/-- The verdict of the inner layer on a trimmed condition, after it was noted. -/
def evaluateAtom (fields : List (Option Field)) (ask : Option (Text → m (Option Text)))
    (note : Text → Option Bool → m Unit) (condition : Text) : m (Option Bool) := do
  let verdict ← (Atom.read condition).decide fields ask
  note condition verdict
  pure verdict

/-- Is there a known truth among the sides? Sides behind the first one are not looked at. -/
def someTrue (evaluate : Text → m (Option Bool)) : List Text → m Bool
  | [] => pure false
  | side :: sides => do
    let verdict ← evaluate side
    if verdict = some true then pure true else someTrue evaluate sides

/-- Is every side a known truth? Sides behind the first other one are not looked at. -/
def everyTrue (evaluate : Text → m (Option Bool)) : List Text → m Bool
  | [] => pure true
  | side :: sides => do
    let verdict ← evaluate side
    if verdict = some true then everyTrue evaluate sides else pure false

/-- The verdict of the middle layer on a trimmed condition. -/
def evaluateSides (fields : List (Option Field)) (ask : Option (Text → m (Option Text)))
    (note : Text → Option Bool → m Unit) (condition : Text) : m (Option Bool) := do
  if Text.hasPair '|' '|' condition then
    let found ← someTrue (fun side => evaluateAtom fields ask note (Text.trim side))
      (Text.splitPair '|' '|' condition)
    if found then pure (some true) else evaluateAtom fields ask note condition
  else evaluateAtom fields ask note condition

/-- The verdict on a condition. -/
def evaluate (fields : List (Option Field)) (ask : Option (Text → m (Option Text)))
    (note : Text → Option Bool → m Unit) (expression : Text) : m (Option Bool) := do
  let condition := Text.trim expression
  if Text.hasPair '&' '&' condition then
    let all ← everyTrue (fun side => evaluateSides fields ask note (Text.trim side))
      (Text.splitPair '&' '&' condition)
    pure (some all)
  else evaluateSides fields ask note condition

/-- What an evaluation left behind: the names asked of the store, and the conditions of the
inner layer with their verdicts, both newest first. -/
structure Inquiry where
  asked : List Text := []
  verdicts : List (Text × Option Bool) := []

/-- Evaluate a condition with a map for the store, or without one, and keep account of what
was asked and decided, oldest first. -/
def inquire (fields : List (Option Field)) (stored : Option (Text → Option Text))
    (expression : Text) : Option Bool × Inquiry :=
  let ask (answer : Text → Option Text) (name : Text) : StateM Inquiry (Option Text) := do
    modify fun i => { i with asked := name :: i.asked }
    return answer name
  let note (condition : Text) (verdict : Option Bool) : StateM Inquiry Unit :=
    modify fun i => { i with verdicts := (condition, verdict) :: i.verdicts }
  let (verdict, i) := (evaluate fields (stored.map ask) note expression).run {}
  (verdict, { asked := i.asked.reverse, verdicts := i.verdicts.reverse })

end Condition

end Phrasebook
