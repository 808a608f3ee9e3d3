import Phrasebook.Proofs.Condition.Layers
import Phrasebook.Proofs.Simulation
import Phrasebook.Proofs.Text.Pairs

/-!
# How conditions compose

A condition is a text, and the readers of its layers split and trim the text anew on each
level. What the text says nevertheless follows its parts: `&&` between two conditions is a
conjunction that looks at the second one only if the first is a known truth, and `||` looks at
sides up to the first known truth, and at the whole text if there is none
(`evaluate_composes`). The laws hold in any monad the store is asked in, so also where its
answers change from one question to the next.

With a map for the store it can be said what is asked: `inquire` keeps account of it. An
evaluation only ever adds to the account (`Simulation.accounting`), and so the account of a
condition is put together from the accounts of its parts.
-/

namespace Phrasebook.Condition

variable {m : Type → Type} [Monad m]
variable {fields : List (Option Field)} {ask : Option (Text → m (Option Text))}
variable {note : Text → Option Bool → m Unit}

section Layers

theorem everyTrue_append [LawfulMonad m] (f : Text → m (Option Bool)) (sides others : List Text) :
    everyTrue f (sides ++ others) = (do
      let all ← everyTrue f sides
      if all then everyTrue f others else pure false) := by
  induction sides with
  | nil => simp [everyTrue]
  | cons side sides ih =>
    rw [List.cons_append, everyTrue, everyTrue, bind_assoc]
    congr 1
    funext verdict
    split
    · exact ih
    · simp

theorem someTrue_map (f : Text → m (Option Bool)) (g : Text → Text) (sides : List Text) :
    someTrue f (sides.map g) = someTrue (fun side => f (g side)) sides := by
  induction sides with
  | nil => rfl
  | cons side sides ih => rw [List.map_cons, someTrue, someTrue, ih]

theorem everyTrue_map (f : Text → m (Option Bool)) (g : Text → Text) (sides : List Text) :
    everyTrue f (sides.map g) = everyTrue (fun side => f (g side)) sides := by
  induction sides with
  | nil => rfl
  | cons side sides ih => rw [List.map_cons, everyTrue, everyTrue, ih]

/-- The middle layer on the trimmed sides of `&&`, of which there may be only one. -/
def holdsEvery (fields : List (Option Field)) (ask : Option (Text → m (Option Text)))
    (note : Text → Option Bool → m Unit) (expression : Text) : m Bool :=
  everyTrue (evaluateSides fields ask note) ((Text.splitPair '&' '&' expression).map Text.trim)

theorem evaluate_of_hasPair {expression : Text} (h : Text.hasPair '&' '&' expression = true) :
    evaluate fields ask note expression = (do
      let all ← holdsEvery fields ask note expression
      pure (some all)) := by
  have pair : Text.hasPair '&' '&' (Text.trim expression) = true := by
    rw [Text.hasPair_trim (by decide) (by decide), h]
  rw [evaluate, holdsEvery, ← Text.map_trim_splitPair_trim (by decide) (by decide), everyTrue_map]
  simp only [pair, if_true]

theorem evaluate_of_not_hasPair {expression : Text}
    (h : Text.hasPair '&' '&' expression = false) :
    evaluate fields ask note expression =
      evaluateSides fields ask note (Text.trim expression) := by
  have pairless : Text.hasPair '&' '&' (Text.trim expression) = false := by
    rw [Text.hasPair_trim (by decide) (by decide), h]
  rw [evaluate]
  simp only [pairless, Bool.false_eq_true, if_false]

/-- Whether a condition is a known truth is known from the sides of `&&`, with or without the
sign. -/
theorem evaluate_eq_some_true [LawfulMonad m] (expression : Text) :
    (do
      let verdict ← evaluate fields ask note expression
      pure (verdict == some true)) = holdsEvery fields ask note expression := by
  cases h : Text.hasPair '&' '&' expression with
  | true =>
    rw [evaluate_of_hasPair h]
    simp
  | false =>
    rw [evaluate_of_not_hasPair h, holdsEvery, Text.splitPair_of_not_hasPair h]
    simp only [List.map_cons, List.map_nil, everyTrue]
    congr 1
    funext verdict
    split
    · next known => rw [known]; rfl
    · next other => rw [beq_eq_false_iff_ne.2 other]

theorem evaluate_and [LawfulMonad m] {a : Text} (h : a.getLast? ≠ some '&') (b : Text) :
    evaluate fields ask note (a ++ '&' :: '&' :: b) = (do
      let first ← evaluate fields ask note a
      if first = some true then
        let second ← evaluate fields ask note b
        pure (some (second == some true))
      else pure (some false)) := by
  have pair : Text.hasPair '&' '&' (a ++ '&' :: '&' :: b) = true :=
    Text.hasPair_iff.2 ⟨a, b, by simp⟩
  have sides : holdsEvery fields ask note (a ++ '&' :: '&' :: b) = (do
      let all ← holdsEvery fields ask note a
      if all then holdsEvery fields ask note b else pure false) := by
    rw [holdsEvery, Text.splitPair_append h, List.map_append, everyTrue_append]
    rfl
  rw [evaluate_of_hasPair pair, sides, ← evaluate_eq_some_true a, ← evaluate_eq_some_true b]
  simp only [bind_assoc, pure_bind]
  congr 1
  funext first
  by_cases known : first = some true
  · simp [known]
  · simp [known]

theorem evaluate_atom {expression : Text} (hand : Text.hasPair '&' '&' expression = false)
    (hor : Text.hasPair '|' '|' expression = false) :
    evaluate fields ask note expression =
      evaluateAtom fields ask note (Text.trim expression) := by
  have pairless : Text.hasPair '|' '|' (Text.trim expression) = false := by
    rw [Text.hasPair_trim (by decide) (by decide), hor]
  rw [evaluate_of_not_hasPair hand, evaluateSides]
  simp only [pairless, Bool.false_eq_true, if_false]

theorem evaluate_or {expression : Text} (hand : Text.hasPair '&' '&' expression = false)
    (hor : Text.hasPair '|' '|' expression = true) :
    evaluate fields ask note expression = (do
      let found ← someTrue (evaluate fields ask note) (Text.splitPair '|' '|' expression)
      if found then pure (some true)
      else evaluateAtom fields ask note (Text.trim expression)) := by
  have pair : Text.hasPair '|' '|' (Text.trim expression) = true := by
    rw [Text.hasPair_trim (by decide) (by decide), hor]
  have sides : ∀ side ∈ Text.splitPair '|' '|' expression,
      evaluate fields ask note side = evaluateAtom fields ask note (Text.trim side) := by
    intro side hside
    apply evaluate_atom
    · exact Text.hasPair_of_infix (Text.infix_of_mem_splitPair hside) hand
    · exact Text.hasPair_of_mem_splitPair hside
  rw [evaluate_of_not_hasPair hand, evaluateSides, someTrue_congr sides]
  simp only [pair, if_true]
  rw [← someTrue_map (evaluateAtom fields ask note) Text.trim,
    Text.map_trim_splitPair_trim (by decide) (by decide), someTrue_map]

theorem evaluate_trim (expression : Text) :
    evaluate fields ask note (Text.trim expression) = evaluate fields ask note expression := by
  rw [evaluate, evaluate, Text.trim_trim]

end Layers

section Accounts

/-- The name that an atom asks the store for, if there is a store and it asks. -/
def Atom.asks (fields : List (Option Field)) (stored : Option (Text → Option Text)) :
    Atom → Option Text
  | .compare _ _ _ => none
  | .bare name _ =>
    if stored.isSome && (Field.find? name fields).isNone then some name else none

/-- The verdict on an atom with a map for the store, or without one. -/
def Atom.verdict (fields : List (Option Field)) (stored : Option (Text → Option Text))
    (atom : Atom) : Option Bool :=
  Id.run (atom.decide fields (stored.map fun answer name => pure (answer name)))

/-- The account of one evaluation and then of another. -/
instance : Append Inquiry where
  append i j := ⟨i.asked ++ j.asked, i.verdicts ++ j.verdicts⟩

/-- An account with its oldest entries first. -/
def Inquiry.turned (i : Inquiry) : Inquiry := ⟨i.asked.reverse, i.verdicts.reverse⟩

namespace Inquiry

@[simp] theorem asked_append (i j : Inquiry) : (i ++ j).asked = i.asked ++ j.asked := rfl

@[simp] theorem verdicts_append (i j : Inquiry) :
    (i ++ j).verdicts = i.verdicts ++ j.verdicts := rfl

theorem append_assoc (i j k : Inquiry) : i ++ j ++ k = i ++ (j ++ k) :=
  show mk _ _ = mk _ _ by simp

@[simp] theorem append_empty (i : Inquiry) : i ++ ({} : Inquiry) = i :=
  show mk (i.asked ++ []) (i.verdicts ++ []) = i by simp

theorem turned_append (i j : Inquiry) : (i ++ j).turned = j.turned ++ i.turned :=
  show mk (i.asked ++ j.asked).reverse (i.verdicts ++ j.verdicts).reverse =
    mk (j.asked.reverse ++ i.asked.reverse) (j.verdicts.reverse ++ i.verdicts.reverse) by simp

end Inquiry

/-- Ask a map for a name and keep account of it. -/
def asking (answer : Text → Option Text) (name : Text) : StateM Inquiry (Option Text) := do
  modify fun i => { i with asked := name :: i.asked }
  return answer name

/-- Keep account of a verdict. -/
def noting (condition : Text) (verdict : Option Bool) : StateM Inquiry Unit :=
  modify fun i => { i with verdicts := (condition, verdict) :: i.verdicts }

/-- The value of an action and what it leaves in an empty account. -/
def account {α : Type} (act : StateM Inquiry α) : α × Inquiry :=
  ((act {}).1, (act {}).2.turned)

variable {stored : Option (Text → Option Text)}

theorem inquire_eq (expression : Text) :
    inquire fields stored expression =
      account (evaluate fields (stored.map asking) noting expression) := rfl

/-- Actions that add to an account and do not look at what is in it. -/
def accounting : Simulation (StateM Inquiry) (StateM Inquiry) :=
  .ofKept (fun act => ∀ i, act i = ((act {}).1, (act {}).2 ++ i))
    (fun _ _ => rfl)
    fun {_ _ x f} hx hf i => by
      change f (x i).1 (x i).2 = ((f (x {}).1 (x {}).2).1, (f (x {}).1 (x {}).2).2 ++ i)
      rw [hx i, hf _ ((x {}).2 ++ i), hf _ (x {}).2, Inquiry.append_assoc]

/-- What one action leaves and then the next. -/
theorem account_bind {α β : Type} (x : StateM Inquiry α) {f : α → StateM Inquiry β}
    (hf : ∀ a, accounting.Keeps (f a)) :
    account (x >>= f) = ((account (f (account x).1)).1,
      (account x).2 ++ (account (f (account x).1)).2) := by
  change (f (x {}).1 (x {}).2 |>.1, (f (x {}).1 (x {}).2 |>.2).turned) = _
  rw [hf _ (x {}).2]
  simp only [Inquiry.turned_append]
  rfl

/-- An atom asks for its name, if it has one that no field binds, and its verdict is noted. -/
theorem account_evaluateAtom (condition : Text) :
    account (evaluateAtom fields (stored.map asking) noting condition) =
      ((Atom.read condition).verdict fields stored,
        { asked := ((Atom.read condition).asks fields stored).toList
          verdicts := [(condition, (Atom.read condition).verdict fields stored)] }) := by
  cases atom : Atom.read condition with
  | compare key literal differ =>
    simp only [evaluateAtom, atom]
    cases stored <;> rfl
  | bare name invert =>
    simp only [evaluateAtom, atom, Atom.decide, Atom.asks, Atom.verdict]
    cases field : Field.find? name fields with
    | some v =>
      cases stored <;> rfl
    | none =>
      cases stored <;> rfl

theorem accounting_evaluateAtom (condition : Text) :
    accounting.Keeps (evaluateAtom fields (stored.map asking) noting condition) := by
  have noted (verdict : Option Bool) : accounting.Keeps (noting condition verdict) := fun _ => rfl
  refine accounting.bind ?_ fun verdict => accounting.bind (noted verdict) fun _ =>
    accounting.pure verdict
  cases Atom.read condition with
  | compare key literal differ => exact accounting.pure _
  | bare name invert =>
    simp only [Atom.decide]
    cases Field.find? name fields with
    | some v => exact accounting.pure _
    | none =>
      cases stored with
      | none => exact accounting.pure _
      | some answer => exact accounting.bind (fun _ => rfl) fun _ => accounting.pure _

theorem accounting_evaluate (expression : Text) :
    accounting.Keeps (evaluate fields (stored.map asking) noting expression) :=
  accounting.evaluate accounting_evaluateAtom expression

/-- The account of two conditions with `&&` between them. -/
theorem inquire_and {a : Text} (h : a.getLast? ≠ some '&') (b : Text) :
    inquire fields stored (a ++ '&' :: '&' :: b) =
      if (inquire fields stored a).1 = some true then
        (some ((inquire fields stored b).1 == some true),
          (inquire fields stored a).2 ++ (inquire fields stored b).2)
      else (some false, (inquire fields stored a).2) := by
  have second (verdict : Option Bool) : accounting.Keeps
      (pure (some (verdict == some true)) : StateM Inquiry (Option Bool)) := accounting.pure _
  have rest (verdict : Option Bool) : accounting.Keeps (do
      if verdict = some true then
        let second ← evaluate fields (stored.map asking) noting b
        pure (some (second == some true))
      else pure (some false)) := by
    split
    · exact accounting.bind (accounting_evaluate b) second
    · exact accounting.pure _
  rw [inquire_eq, evaluate_and h, account_bind _ rest, ← inquire_eq]
  split
  · rw [account_bind _ second, ← inquire_eq]
    exact congrArg _ (congrArg _ (Inquiry.append_empty _))
  · exact congrArg _ (Inquiry.append_empty _)

/-- The account of a condition that is an atom. -/
theorem inquire_atom {expression : Text} (hand : Text.hasPair '&' '&' expression = false)
    (hor : Text.hasPair '|' '|' expression = false) :
    (inquire fields stored expression).1 =
      (Atom.read (Text.trim expression)).verdict fields stored ∧
    (inquire fields stored expression).2.asked =
      ((Atom.read (Text.trim expression)).asks fields stored).toList := by
  rw [inquire_eq, evaluate_atom hand hor, account_evaluateAtom]
  exact ⟨rfl, rfl⟩

section Sides

variable {f : Text → StateM Inquiry (Option Bool)} (hf : ∀ side, accounting.Keeps (f side))
include hf

theorem accounting_behind (sides : List Text) (verdict : Option Bool) :
    accounting.Keeps (if verdict = some true then pure true else someTrue f sides) := by
  split
  · exact accounting.pure true
  · exact accounting.someTrue fun side _ => hf side

/-- Sides that are no known truths are looked at, and then the ones behind them. -/
theorem account_someTrue_append (before : List Text)
    (h : ∀ side ∈ before, (account (f side)).1 ≠ some true) (after : List Text) :
    (account (someTrue f (before ++ after))).1 = (account (someTrue f after)).1 ∧
    (account (someTrue f (before ++ after))).2.asked =
      (before.flatMap fun side => (account (f side)).2.asked) ++
        (account (someTrue f after)).2.asked := by
  induction before with
  | nil => exact ⟨rfl, rfl⟩
  | cons side before ih =>
    obtain ⟨other, others⟩ := List.forall_mem_cons.1 h
    obtain ⟨found, asked⟩ := ih others
    rw [List.cons_append, someTrue, account_bind _ (accounting_behind hf _), if_neg other,
      List.flatMap_cons, List.append_assoc, ← asked]
    exact ⟨found, rfl⟩

/-- Behind a known truth no side is looked at. -/
theorem account_someTrue_cons {side : Text} (h : (account (f side)).1 = some true)
    (after : List Text) :
    account (someTrue f (side :: after)) = (true, (account (f side)).2) := by
  rw [someTrue, account_bind _ (accounting_behind hf after), if_pos h]
  exact congrArg _ (Inquiry.append_empty _)

end Sides

/-- The account of a condition with sides of `||`. -/
theorem inquire_or {expression : Text} (hand : Text.hasPair '&' '&' expression = false)
    (hor : Text.hasPair '|' '|' expression = true) :
    (∀ before side after, Text.splitPair '|' '|' expression = before ++ side :: after →
      (∀ s ∈ before, (inquire fields stored s).1 ≠ some true) →
      (inquire fields stored side).1 = some true →
        (inquire fields stored expression).1 = some true ∧
        (inquire fields stored expression).2.asked =
          (before ++ [side]).flatMap fun s => (inquire fields stored s).2.asked) ∧
    ((∀ side ∈ Text.splitPair '|' '|' expression, (inquire fields stored side).1 ≠ some true) →
      (inquire fields stored expression).1 =
        (Atom.read (Text.trim expression)).verdict fields stored ∧
      (inquire fields stored expression).2.asked =
        ((Text.splitPair '|' '|' expression).flatMap fun s => (inquire fields stored s).2.asked) ++
          ((Atom.read (Text.trim expression)).asks fields stored).toList) := by
  have rest (found : Bool) : accounting.Keeps (if found then pure (some true)
      else evaluateAtom fields (stored.map asking) noting (Text.trim expression)) := by
    split
    · exact accounting.pure _
    · exact accounting_evaluateAtom _
  simp only [inquire_eq]
  rw [evaluate_or hand hor, account_bind _ rest]
  constructor
  · intro before side after split none first
    obtain ⟨found, asked⟩ := account_someTrue_append accounting_evaluate before none (side :: after)
    rw [account_someTrue_cons accounting_evaluate first] at found asked
    rw [split, found, Inquiry.asked_append, asked, List.flatMap_append, List.flatMap_singleton]
    exact ⟨rfl, List.append_nil _⟩
  · intro none
    have nothing : account (someTrue (evaluate fields (stored.map asking) noting) []) =
        (false, {}) := rfl
    obtain ⟨found, asked⟩ := account_someTrue_append accounting_evaluate _ none []
    rw [List.append_nil, nothing] at found asked
    rw [found, Inquiry.asked_append, asked, List.append_nil, if_neg Bool.false_ne_true,
      account_evaluateAtom]
    exact ⟨rfl, rfl⟩

end Accounts

/-- **Conditions compose.** In any monad that the store is asked in, `&&` between two conditions
looks at the second one only if the first is a known truth, and gives a known verdict; `||` looks
at the sides up to the first known truth, and if there is none at the whole text as an atom; and
three rounds of splitting are enough. With a map for the store, the names asked for are those of
the sides that are looked at, in that order, and an atom asks for one name at most, a comparison
for none. -/
theorem evaluate_composes [LawfulMonad m] (fields : List (Option Field))
    (ask : Option (Text → m (Option Text))) (note : Text → Option Bool → m Unit)
    (stored : Option (Text → Option Text)) :
    (∀ a b, a.getLast? ≠ some '&' →
      evaluate fields ask note (a ++ '&' :: '&' :: b) = (do
        let first ← evaluate fields ask note a
        if first = some true then
          let second ← evaluate fields ask note b
          pure (some (second == some true))
        else pure (some false)) ∧
      inquire fields stored (a ++ '&' :: '&' :: b) =
        if (inquire fields stored a).1 = some true then
          (some ((inquire fields stored b).1 == some true),
            (inquire fields stored a).2 ++ (inquire fields stored b).2)
        else (some false, (inquire fields stored a).2)) ∧
    (∀ e, Text.hasPair '&' '&' e = false → Text.hasPair '|' '|' e = true →
      evaluate fields ask note e = (do
        let found ← someTrue (evaluate fields ask note) (Text.splitPair '|' '|' e)
        if found then pure (some true) else evaluateAtom fields ask note (Text.trim e)) ∧
      (∀ before side after, Text.splitPair '|' '|' e = before ++ side :: after →
        (∀ s ∈ before, (inquire fields stored s).1 ≠ some true) →
        (inquire fields stored side).1 = some true →
          (inquire fields stored e).1 = some true ∧
          (inquire fields stored e).2.asked =
            (before ++ [side]).flatMap fun s => (inquire fields stored s).2.asked) ∧
      ((∀ side ∈ Text.splitPair '|' '|' e, (inquire fields stored side).1 ≠ some true) →
        (inquire fields stored e).1 = (Atom.read (Text.trim e)).verdict fields stored ∧
        (inquire fields stored e).2.asked =
          ((Text.splitPair '|' '|' e).flatMap fun s => (inquire fields stored s).2.asked) ++
            ((Atom.read (Text.trim e)).asks fields stored).toList)) ∧
    (∀ reader e, round fields ask note (round fields ask note (round fields ask note reader)) e =
      evaluate fields ask note e) ∧
    ∀ e, Text.hasPair '&' '&' e = false → Text.hasPair '|' '|' e = false →
      (inquire fields stored e).1 = (Atom.read (Text.trim e)).verdict fields stored ∧
      (inquire fields stored e).2.asked =
        ((Atom.read (Text.trim e)).asks fields stored).toList := by
  refine ⟨fun a b h => ⟨evaluate_and h b, inquire_and h b⟩,
    fun e hand hor => ⟨evaluate_or hand hor, inquire_or hand hor⟩,
    fun reader e => round_round_round reader e, fun e hand hor => inquire_atom hand hor⟩

/-- A store that holds one text. -/
def storedYes (name : Text) : Option Text :=
  if name = ['y', 'e', 's'] then some ['1'] else none

/-- The second condition of `yes && no || n` is looked at: its two sides are asked for, and then
the whole of it. -/
theorem evaluate_composes_asked :
    (inquire [] (some storedYes) "yes && no || n".toList).1 = some false ∧
    (inquire [] (some storedYes) "yes && no || n".toList).2.asked =
      [['y', 'e', 's'], ['n', 'o'], ['n'], "no || n".toList] := by
  obtain ⟨and, or, -, -⟩ :=
    evaluate_composes (m := Id) [] none (fun _ _ => ()) (some storedYes)
  have both := (and "yes ".toList " no || n".toList (by decide)).2
  rw [if_pos (by decide +kernel)] at both
  obtain ⟨verdict, asked⟩ :=
    (or " no || n".toList (by decide) (by decide)).2.2 (by decide +kernel)
  rw [show "yes && no || n".toList = "yes ".toList ++ '&' :: '&' :: " no || n".toList from rfl,
    both]
  constructor
  · rw [verdict]
    decide +kernel
  · rw [Inquiry.asked_append, asked]
    decide +kernel

end Phrasebook.Condition
