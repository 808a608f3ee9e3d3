import Phrasebook.Proofs.Condition.Atoms
import Phrasebook.Proofs.Condition.Composition
import Phrasebook.Proofs.Text.Case

/-!
# A disjunction without a true side

Where no side of `||` is a known truth, the whole text is read once more, as an atom. What is
around the first `||` then stands together on one side of the first operator. If the key or the
name has the bars, nothing is bound to it. If the literal has them, no wording agrees with it,
which makes an equation false and the opposite true. If both were read before the bars, they are
those of the first side, and so is the verdict. So there is one way for such a condition to hold:
a `!=` whose literal runs across the bars (`disjunction_true_iff`).
-/

namespace Phrasebook.Condition

variable {fields : List (Option Field)} {stored : Option (Text → Option Text)}

/-- Two bars are in no key and in no wording of the fields. -/
def Barless (fields : List (Option Field)) : Prop :=
  ∀ f, some f ∈ fields → Text.hasPair '|' '|' f.key = false ∧ Text.hasPair '|' '|' f.wording = false

namespace Barless

theorem find?_eq_none (barless : Barless fields) {key : Text}
    (h : Text.hasPair '|' '|' key = true) : Field.find? key fields = none := by
  refine Field.find?_eq_none_iff.2 fun f hf same => ?_
  have plain := (barless f hf).1
  rw [same, h] at plain
  cases plain

theorem agrees_eq_false (barless : Barless fields) {key literal : Text} {v : Scalar}
    (bound : Field.find? key fields = some v) (h : Text.hasPair '|' '|' literal = true) :
    agrees v literal = false := by
  obtain ⟨f, hf, -, rfl⟩ := Field.exists_of_find? bound
  have plain : Text.hasPair '|' '|' (Text.trim f.value.wording) = false := by
    rw [Text.hasPair_trim (by decide) (by decide)]
    exact (barless f hf).2
  rw [agrees, beq_eq_false_iff_ne]
  intro same
  have bars := congrArg (Text.hasPair '|' '|') same
  rw [Text.hasPair_bar_lower, Text.hasPair_bar_lower, plain, h] at bars
  cases bars

end Barless

/-- The pieces around an operator, where two bars lie between a text and the rest. -/
theorem exists_pieces_across_bars {a : Char} (ha : a ≠ '|') (s rest : Text) :
    ∃ ps p q qs, Text.splitPair a '=' s = ps ++ [p] ∧ Text.hasPair '|' '|' q = true ∧
      Text.splitPair a '=' (s ++ '|' :: '|' :: rest) = ps ++ q :: qs := by
  have bars : a ∉ ['|', '|'] := by simp [ha]
  obtain ⟨os, o, r, qs, before, -, behind⟩ :=
    Text.splitPair_append_apart (a := a) (b := '=') (s := ['|', '|']) (t := rest)
      fun across => bars (List.mem_of_getLast? across.1)
  rw [Text.splitPair_of_not_mem bars] at before
  obtain ⟨rfl, rfl⟩ : os = [] ∧ o = ['|', '|'] := by
    cases os with
    | nil => exact ⟨rfl, (List.cons.inj before).1.symm⟩
    | cons o os => simp at before
  obtain ⟨ps, p, q, qs', first, second, whole⟩ :=
    Text.splitPair_append_apart (a := a) (b := '=') (s := s) (t := '|' :: '|' :: rest) (by simp)
  obtain ⟨rfl, rfl⟩ := List.cons.inj (second.symm.trans behind)
  refine ⟨ps, p, p ++ (['|', '|'] ++ r), qs', first, ?_, whole⟩
  exact Text.hasPair_iff.2 ⟨p, r, by simp⟩

/-- The bars behind a text without them are in the key of a comparison, or in its literal, or
else the text holds the whole comparison. -/
theorem comparison_across_bars {a : Char} (ha : a ≠ '|') (differ : Bool) {s : Text}
    (plain : Text.hasPair '|' '|' s = false) (rest : Text) :
    (∃ name others, Text.splitPair a '=' (s ++ '|' :: '|' :: rest) = name :: others ∧
      Text.hasPair '|' '|' name = true) ∨
    (∃ name literal others,
      Text.splitPair a '=' (s ++ '|' :: '|' :: rest) = name :: literal :: others ∧
      Text.hasPair '|' '|' literal = true) ∨
    ∃ name literal others,
      Text.splitPair a '=' (s ++ '|' :: '|' :: rest) = name :: literal :: others ∧
      Text.hasPair '|' '|' literal = false ∧ Text.hasPair a '=' s = true ∧
      Atom.comparison a differ (s ++ '|' :: '|' :: rest) = Atom.comparison a differ s := by
  obtain ⟨ps, p, q, qs, first, bars, whole⟩ := exists_pieces_across_bars ha s rest
  match ps with
  | [] => exact .inl ⟨q, qs, whole, bars⟩
  | [name] => exact .inr (.inl ⟨name, q, qs, whole, bars⟩)
  | name :: literal :: ps =>
    have inside : literal ∈ Text.splitPair a '=' s := by simp [first]
    have several : Text.hasPair a '=' s = true := by simp [Text.hasPair_iff_length, first]
    refine .inr (.inr ⟨name, literal, ps ++ q :: qs, whole, ?_, several, ?_⟩)
    · exact Text.hasPair_of_infix (Text.infix_of_mem_splitPair inside) plain
    · rw [Atom.comparison, Atom.comparison, whole, first]
      rfl

namespace Barless

variable {a : Char} {differ : Bool} {condition name literal : Text} {others : List Text}

theorem verdict_of_bars_in_key (barless : Barless fields)
    (pieces : Text.splitPair a '=' condition = name :: others)
    (bars : Text.hasPair '|' '|' name = true) :
    (Atom.comparison a differ condition).verdict fields stored = none := by
  have key : Text.hasPair '|' '|' (Text.trim name) = true := by
    rw [Text.hasPair_trim (by decide) (by decide), bars]
  have verdict (literal : Text) :
      (Atom.compare (Text.trim name) literal differ).verdict fields stored = none := by
    change negateIf differ ((Field.find? (Text.trim name) fields).map _) = none
    rw [barless.find?_eq_none key]
    rfl
  rw [Atom.comparison, pieces]
  cases others with
  | nil => exact verdict []
  | cons literal others => exact verdict (Text.trim literal)

theorem verdict_of_bars_in_literal (barless : Barless fields)
    (pieces : Text.splitPair a '=' condition = name :: literal :: others)
    (bars : Text.hasPair '|' '|' literal = true) :
    (Atom.comparison a differ condition).verdict fields stored =
      (Field.find? (Text.trim name) fields).map fun _ => differ := by
  have across : Text.hasPair '|' '|' (Text.trim literal) = true := by
    rw [Text.hasPair_trim (by decide) (by decide), bars]
  rw [Atom.comparison, pieces]
  change negateIf differ ((Field.find? (Text.trim name) fields).map fun v =>
    agrees v (Text.trim literal)) = _
  cases bound : Field.find? (Text.trim name) fields with
  | none => rfl
  | some v =>
    rw [Option.map_some, barless.agrees_eq_false bound across]
    cases differ <;> rfl

/-- A name with two bars is unknown where there is no store to ask. -/
theorem verdict_of_bars_in_name (barless : Barless fields) {invert : Bool}
    (bars : Text.hasPair '|' '|' name = true) :
    (Atom.bare name invert).verdict fields none = none := by
  simp only [Atom.verdict, Option.map_none, Atom.decide, barless.find?_eq_none bars]
  rfl

end Barless

namespace Atom

variable {condition : Text}

/-- Bars in a text without an operator are in its name. -/
theorem read_bare_of_bars (heq : Text.hasPair '=' '=' condition = false)
    (hne : Text.hasPair '!' '=' condition = false)
    (bars : Text.hasPair '|' '|' condition = true) :
    ∃ name invert, read condition = .bare name invert ∧ Text.hasPair '|' '|' name = true := by
  unfold read
  rw [if_neg (Bool.eq_false_iff.1 heq), if_neg (Bool.eq_false_iff.1 hne)]
  split
  · next rest =>
    have behind : Text.hasPair '|' '|' (['!'] ++ rest) = Text.hasPair '|' '|' rest :=
      Text.hasPair_append_of_not_mem (by decide) rest
    refine ⟨Text.trim rest, true, rfl, ?_⟩
    rw [Text.hasPair_trim (by decide) (by decide), ← behind]
    exact bars
  · exact ⟨condition, false, rfl, bars⟩

end Atom

/-- With an equation first, the whole text around the first bars does not hold, if what is before
them does not. -/
theorem equation_across_bars (barless : Barless fields) {s rest : Text}
    (plain : Text.hasPair '|' '|' s = false)
    (first : (Atom.read (Text.trim s)).verdict fields stored ≠ some true)
    (heq : Text.hasPair '=' '=' (s ++ '|' :: '|' :: rest) = true) :
    (Atom.read (s ++ '|' :: '|' :: rest)).verdict fields stored ≠ some true := by
  rw [Atom.read_equation heq]
  rcases comparison_across_bars (a := '=') (by decide) false plain rest with
    ⟨name, others, pieces, bars⟩ | ⟨name, literal, others, pieces, bars⟩ |
      ⟨-, -, -, -, -, several, same⟩
  · rw [barless.verdict_of_bars_in_key pieces bars]
    exact fun unknown => nomatch unknown
  · rw [barless.verdict_of_bars_in_literal pieces bars]
    cases Field.find? (Text.trim name) fields <;> simp
  · have several' : Text.hasPair '=' '=' (Text.trim s) = true := by
      rw [Text.hasPair_trim (by decide) (by decide), several]
    rwa [Atom.read_equation several', Atom.comparison_trim (by decide), ← same] at first

/-- With a `!=` first, the whole text around the first bars holds only if they are in its literal
and its key is bound, if what is before them does not hold. -/
theorem difference_across_bars (barless : Barless fields) {s rest : Text}
    (plain : Text.hasPair '|' '|' s = false)
    (first : (Atom.read (Text.trim s)).verdict fields stored ≠ some true)
    (heq : Text.hasPair '=' '=' (s ++ '|' :: '|' :: rest) = false)
    (hne : Text.hasPair '!' '=' (s ++ '|' :: '|' :: rest) = true) :
    (Atom.read (s ++ '|' :: '|' :: rest)).verdict fields stored = some true ↔
      ∃ name literal others,
        Text.splitPair '!' '=' (s ++ '|' :: '|' :: rest) = name :: literal :: others ∧
        Text.hasPair '|' '|' literal = true ∧ Field.find? (Text.trim name) fields ≠ none := by
  rw [Atom.read_difference heq hne]
  rcases comparison_across_bars (a := '!') (by decide) true plain rest with
    ⟨name, others, pieces, bars⟩ | ⟨name, literal, others, pieces, bars⟩ |
      ⟨name, literal, others, pieces, inside, several, same⟩
  · rw [barless.verdict_of_bars_in_key pieces bars, pieces]
    constructor
    · exact fun unknown => nomatch unknown
    · rintro ⟨name', literal, others', same, -, bound⟩
      obtain ⟨rfl, -⟩ := List.cons.inj same
      have bars' : Text.hasPair '|' '|' (Text.trim name) = true := by
        rw [Text.hasPair_trim (by decide) (by decide), bars]
      exact absurd (barless.find?_eq_none bars') bound
  · rw [barless.verdict_of_bars_in_literal pieces bars, pieces]
    constructor
    · intro holds
      refine ⟨name, literal, others, rfl, bars, fun free => ?_⟩
      rw [free] at holds
      cases holds
    · rintro ⟨name', literal', others', same, -, bound⟩
      obtain ⟨rfl, -⟩ := List.cons.inj same
      obtain ⟨v, found⟩ := Option.ne_none_iff_exists'.1 bound
      rw [found]
      rfl
  · have heq' : Text.hasPair '=' '=' (Text.trim s) = false := by
      apply Text.hasPair_of_infix _ heq
      exact (Text.trim_infix s).trans (List.prefix_append _ _).isInfix
    have several' : Text.hasPair '!' '=' (Text.trim s) = true := by
      rw [Text.hasPair_trim (by decide) (by decide), several]
    rw [Atom.read_difference heq' several', Atom.comparison_trim (by decide), ← same] at first
    rw [pieces]
    constructor
    · exact fun holds => absurd holds first
    · rintro ⟨name', literal', others', same', bars, -⟩
      obtain ⟨rfl, rest'⟩ := List.cons.inj same'
      obtain ⟨rfl, -⟩ := List.cons.inj rest'
      rw [inside] at bars
      cases bars

/-- The whole text around the first bars holds only as a `!=` whose literal runs across them, if
what is before them does not hold. -/
theorem verdict_across_bars (barless : Barless fields) {s rest : Text}
    (plain : Text.hasPair '|' '|' s = false)
    (first : (Atom.read (Text.trim s)).verdict fields none ≠ some true) :
    (Atom.read (s ++ '|' :: '|' :: rest)).verdict fields none = some true ↔
      Text.hasPair '=' '=' (s ++ '|' :: '|' :: rest) = false ∧
      ∃ name literal others,
        Text.splitPair '!' '=' (s ++ '|' :: '|' :: rest) = name :: literal :: others ∧
        Text.hasPair '|' '|' literal = true ∧ Field.find? (Text.trim name) fields ≠ none := by
  cases heq : Text.hasPair '=' '=' (s ++ '|' :: '|' :: rest) with
  | true =>
    have fails := equation_across_bars barless plain first heq
    simp [fails]
  | false =>
    cases hne : Text.hasPair '!' '=' (s ++ '|' :: '|' :: rest) with
    | true => simp only [difference_across_bars barless plain first heq hne, true_and]
    | false =>
      have bars : Text.hasPair '|' '|' (s ++ '|' :: '|' :: rest) = true :=
        Text.hasPair_iff.2 ⟨s, rest, by simp⟩
      obtain ⟨name, invert, read, inside⟩ := Atom.read_bare_of_bars heq hne bars
      rw [read, barless.verdict_of_bars_in_name inside, Text.splitPair_of_not_hasPair hne]
      simp

/-- **A disjunction without a true side.** Where two bars are in no key and no wording of the
fields, and there is no store to ask, a condition with `||` and without `&&` of which no side is a
known truth holds in one case only: it has no `==`, the literal of its first `!=` has the bars, and
a field has the key before it. -/
theorem disjunction_true_iff (fields : List (Option Field)) (barless : Barless fields) (e : Text)
    (hand : Text.hasPair '&' '&' e = false) (hor : Text.hasPair '|' '|' e = true)
    (sides : ∀ side ∈ Text.splitPair '|' '|' (Text.trim e),
      (inquire fields none side).1 ≠ some true) :
    (inquire fields none e).1 = some true ↔
      Text.hasPair '=' '=' e = false ∧
      ∃ name literal others, Text.splitPair '!' '=' (Text.trim e) = name :: literal :: others ∧
        Text.hasPair '|' '|' literal = true ∧ ∃ f, some f ∈ fields ∧ f.key = Text.trim name := by
  have hand : Text.hasPair '&' '&' (Text.trim e) = false := by
    rw [Text.hasPair_trim (by decide) (by decide), hand]
  have hor : Text.hasPair '|' '|' (Text.trim e) = true := by
    rw [Text.hasPair_trim (by decide) (by decide), hor]
  have trimmed : inquire fields none (Text.trim e) = inquire fields none e := by
    rw [inquire_eq, evaluate_trim, ← inquire_eq]
  obtain ⟨s, rest, whole, pieces⟩ := Text.exists_first_pair hor
  have inside : s ∈ Text.splitPair '|' '|' (Text.trim e) := pieces ▸ List.mem_cons_self
  have plain : Text.hasPair '|' '|' s = false := Text.hasPair_of_mem_splitPair inside
  have hand' : Text.hasPair '&' '&' s = false :=
    Text.hasPair_of_infix (Text.infix_of_mem_splitPair inside) hand
  have first : (Atom.read (Text.trim s)).verdict fields none ≠ some true := by
    rw [← (inquire_atom hand' plain).1]
    exact sides s inside
  rw [← trimmed, ((inquire_or hand hor).2 sides).1, Text.trim_trim,
    ← Text.hasPair_trim (by decide) (by decide), whole,
    verdict_across_bars barless plain first]
  have bound (name : Text) : Field.find? (Text.trim name) fields ≠ none ↔
      ∃ f, some f ∈ fields ∧ f.key = Text.trim name := by
    simp [Field.find?_eq_none_iff]
  simp only [bound]

/-- A field with one key. -/
def keyField : List (Option Field) := [some ⟨['b'], .text ['c']⟩]

theorem barless_keyField : Barless keyField := by
  intro f hf
  obtain rfl := Option.some.inj (List.mem_singleton.1 hf)
  decide

/-- Neither side holds, but the wording differs from `c || b`, the literal of the first `!=`. -/
theorem disjunction_of_false_sides_holds :
    Barless keyField ∧ Text.hasPair '&' '&' "b != c || b != c".toList = false ∧
    Text.hasPair '|' '|' "b != c || b != c".toList = true ∧
    (∀ side ∈ Text.splitPair '|' '|' (Text.trim "b != c || b != c".toList),
      (inquire keyField none side).1 ≠ some true) ∧
    (inquire keyField none "b != c || b != c".toList).1 = some true := by
  refine ⟨barless_keyField, ?_⟩
  decide +kernel

/-- With an equation in it the whole does not hold either. -/
theorem disjunction_of_equation_fails :
    (inquire keyField none "b != c || b == d".toList).1 ≠ some true := by
  intro holds
  have exception := (disjunction_true_iff keyField barless_keyField "b != c || b == d".toList
    (by decide) (by decide) (by decide +kernel)).1 holds
  exact absurd exception.1 (by decide)

end Phrasebook.Condition
