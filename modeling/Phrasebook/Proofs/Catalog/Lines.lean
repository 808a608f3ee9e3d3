import Mathlib.Data.List.Forall2
import Phrasebook.Catalog
import Phrasebook.Proofs.Text.Cuts

/-!
# Lists are lines of their own

A list in a language file becomes one text, its items joined by line breaks, and a text falls apart
into lines at its line breaks. `Value.rows` says what lines a value has without joining anything: a
list has those of its items, down to any depth, and an empty one stands for an empty line. Joining
and falling apart gives exactly these (`Value.lines_text`), because a text that is put together with
a line break between falls apart into what its two sides fall apart into.

A file is not read into a value but into numbered parts, and a part of them may nest lists without
end. Those that have a wording are the ones that are the lists of a value, down to the depth that
is read, and the wording is the value's (`Document.wordingIn_eq_ok_iff`); so the lines of what a
catalog stores for a list are known too.
-/

namespace Phrasebook

namespace Text

variable {sep : Char}

theorem consHead_append {ps : List Text} (h : ps ≠ []) (c : Char) (qs : List Text) :
    consHead c (ps ++ qs) = consHead c ps ++ qs := by
  cases ps with
  | nil => exact absurd rfl h
  | cons p ps => rfl

/-- A separator splits a text, whatever stands on its sides. -/
theorem splitOn_append_cons (sep : Char) (s t : Text) :
    splitOn sep (s ++ sep :: t) = splitOn sep s ++ splitOn sep t := by
  induction s with
  | nil => simp [splitOn]
  | cons c s ih =>
    rw [List.cons_append, splitOn, splitOn, ih]
    split
    · rfl
    · exact consHead_append (splitOn_ne_nil sep s) c (splitOn sep t)

/-- Joined texts fall apart into what they fall apart into one by one. -/
theorem splitOn_joinWith (sep : Char) {ps : List Text} (h : ps ≠ []) :
    splitOn sep (joinWith [sep] ps) = ps.flatMap (splitOn sep) := by
  induction ps with
  | nil => exact absurd rfl h
  | cons p ps ih =>
    cases ps with
    | nil => simp [joinWith]
    | cons q qs =>
      have tail := ih (List.cons_ne_nil q qs)
      calc splitOn sep (joinWith [sep] (p :: q :: qs))
          = splitOn sep (p ++ sep :: joinWith [sep] (q :: qs)) := by simp [joinWith]
        _ = splitOn sep p ++ (q :: qs).flatMap (splitOn sep) := by
            rw [splitOn_append_cons, tail]

end Text

namespace Value

mutual

/-- The lines of a value: those of its items for a list, of which an empty one is an empty line. -/
def rows : Value → List Text
  | .list [] => [[]]
  | .list (item :: items) => rows item ++ rowsOfAll items
  | .pair a b => rows a ++ rows b
  | v => lines v.text

/-- The lines of some values, one after the other. -/
def rowsOfAll : List Value → List Text
  | [] => []
  | v :: vs => rows v ++ rowsOfAll vs

end

theorem texts_eq_map (vs : List Value) : texts vs = vs.map text := by
  induction vs with
  | nil => rfl
  | cons v vs ih => rw [texts, ih, List.map_cons]

/-- The lines of a list with items are those of its items. -/
theorem lines_list {items : List Value} (h : items ≠ []) :
    lines (text (.list items)) = items.flatMap fun v => lines v.text := by
  have some : items.map text ≠ [] := mt List.map_eq_nil_iff.1 h
  rw [text, texts_eq_map, lines, newLine, Text.splitOn_joinWith '\n' some, List.flatMap_map]
  rfl

mutual

theorem lines_text : (v : Value) → lines v.text = v.rows
  | .list [] => rfl
  | .list (item :: items) => by
    rw [lines_list (List.cons_ne_nil item items), List.flatMap_cons, lines_text item,
      lines_texts items, rows]
  | .pair a b => by
    have apart : lines (text a ++ newLine ++ text b) = lines (text a) ++ lines (text b) := by
      rw [List.append_assoc]
      exact Text.splitOn_append_cons '\n' (text a) (text b)
    rw [text, apart, lines_text a, lines_text b, rows]
  | .scalar _ | .dict _ | .set _ | .bytes _ | .date _ | .moment _ | .listAgain | .dictAgain => by
    rw [rows]
    all_goals exact nofun

theorem lines_texts : (vs : List Value) → (vs.flatMap fun v => lines v.text) = rowsOfAll vs
  | [] => rfl
  | v :: vs => by rw [List.flatMap_cons, lines_text v, lines_texts vs, rowsOfAll]

end

/-- Texts without line breaks are the lines of their list. -/
theorem lines_of_texts {ts : List Text} (some : ts ≠ []) (unbroken : ∀ t ∈ ts, '\n' ∉ t) :
    lines (text (.list (ts.map ofText))) = ts := by
  have single : ∀ t ∈ ts, lines (text (ofText t)) = [t] :=
    fun t ht => Text.splitOn_of_not_mem (unbroken t ht)
  rw [lines_list (mt List.map_eq_nil_iff.1 some), List.flatMap_map,
    List.flatMap_congr single, List.flatMap_singleton']

end Value

/-- Where the results of a step are the images of something related to its argument, so are the
results of some steps. -/
theorem mapM_eq_ok_iff {ε α β γ : Type} {f : α → Except ε β} {R : α → γ → Prop} {g : γ → β}
    (each : ∀ x y, f x = .ok y ↔ ∃ z, R x z ∧ g z = y) {xs : List α} {ys : List β} :
    xs.mapM f = .ok ys ↔ ∃ zs, List.Forall₂ R xs zs ∧ zs.map g = ys := by
  induction xs generalizing ys with
  | nil =>
    simp only [List.mapM_nil, List.forall₂_nil_left_iff, exists_eq_left]
    exact ⟨Except.ok.inj, congrArg Except.ok⟩
  | cons x xs ih =>
    rw [List.mapM_cons]
    constructor
    · intro h
      cases first : f x with
      | error e => rw [first] at h; cases h
      | ok y =>
        cases others : xs.mapM f with
        | error e => rw [first, others] at h; cases h
        | ok more =>
          rw [first, others] at h
          obtain rfl := Except.ok.inj h
          obtain ⟨z, related, rfl⟩ := (each x y).1 first
          obtain ⟨zs, behind, rfl⟩ := ih.1 others
          exact ⟨z :: zs, .cons related behind, rfl⟩
    · rintro ⟨_, related, rfl⟩
      cases related with
      | @cons _ z _ zs related behind =>
        rw [(each x (g z)).2 ⟨z, related, rfl⟩, ih.2 ⟨zs, behind, rfl⟩]
        rfl

namespace Document

variable {d : Document} {i : PartId}

/-- A part is the lists of a value, nested no deeper than `n`: the lists of the one are the lists
of the other, and what is no list shows the value and has a text. -/
def Holds (d : Document) : Nat → PartId → Value → Prop
  | 0, _, _ => False
  | n + 1, i, v =>
    match d.part i with
    | .list items => ∃ vs, v = .list vs ∧ List.Forall₂ (Holds d n) items vs
    | .pair a b => ∃ first second, v = .pair first second ∧ Holds d n a first ∧ Holds d n b second
    | _ => d.unfold i = v ∧ v.isTooLong = false

theorem textBy_eq_ok_iff {t : Text} :
    d.textBy Value.text i = .ok t ↔
      ∃ v, (d.unfold i = v ∧ v.isTooLong = false) ∧ v.text = t := by
  unfold textBy
  dsimp only
  constructor
  · intro h
    split at h
    · cases h
    · next short => exact ⟨d.unfold i, ⟨rfl, by simpa using short⟩, Except.ok.inj h⟩
  · rintro ⟨v, ⟨rfl, short⟩, rfl⟩
    rw [if_neg (by simp [short])]

/-- Joined results are joined from the results that there are. -/
theorem map_joinWith_eq_ok_iff {made : Except TextFault (List Text)} {t : Text} :
    Text.joinWith Value.newLine <$> made = .ok t ↔
      ∃ ts, made = .ok ts ∧ Text.joinWith Value.newLine ts = t := by
  cases made with
  | error f => exact ⟨nofun, nofun⟩
  | ok ts =>
    constructor
    · intro h
      exact ⟨ts, rfl, Except.ok.inj h⟩
    · rintro ⟨_, ⟨⟩, rfl⟩
      rfl

/-- The parts that have a wording are the lists of a value, and the wording is the value's. -/
theorem wordingIn_eq_ok_iff {n : Nat} {t : Text} :
    d.wordingIn n i = .ok t ↔ ∃ v, d.Holds n i v ∧ v.text = t := by
  induction n generalizing i t with
  | zero => simp [wordingIn, Holds]
  | succ n ih =>
    have all {is : List PartId} {ts : List Text} : is.mapM (d.wordingIn n) = .ok ts ↔
        ∃ vs, List.Forall₂ (d.Holds n) is vs ∧ vs.map Value.text = ts :=
      mapM_eq_ok_iff fun _ _ => ih
    cases part : d.part i with
    | list items =>
      simp only [wordingIn, Holds, part, map_joinWith_eq_ok_iff, all]
      constructor
      · rintro ⟨_, ⟨vs, holds, rfl⟩, rfl⟩
        exact ⟨.list vs, ⟨vs, rfl, holds⟩, by rw [Value.text, Value.texts_eq_map]⟩
      · rintro ⟨_, ⟨vs, rfl, holds⟩, rfl⟩
        exact ⟨vs.map Value.text, ⟨vs, holds, rfl⟩, by rw [Value.text, Value.texts_eq_map]⟩
    | pair a b =>
      simp only [wordingIn, Holds, part, map_joinWith_eq_ok_iff, all]
      constructor
      · rintro ⟨_, ⟨vs, holds, rfl⟩, rfl⟩
        cases holds with
        | @cons _ first _ _ one rest =>
          cases rest with
          | @cons _ second _ _ other none =>
            cases none
            exact ⟨.pair first second, ⟨first, second, rfl, one, other⟩,
              by simp [Value.text, Text.joinWith]⟩
      · rintro ⟨_, ⟨first, second, rfl, one, other⟩, rfl⟩
        exact ⟨_, ⟨[first, second], .cons one (.cons other .nil), rfl⟩,
          by simp [Value.text, Text.joinWith]⟩
    | leaf v | dict entries | set members =>
      simp only [wordingIn, Holds, part]
      exact textBy_eq_ok_iff

/-- The lists of a part are nested less deep than `n`. -/
def NestedBelow (d : Document) : Nat → PartId → Prop
  | 0, _ => False
  | n + 1, i =>
    match d.part i with
    | .list items => ∀ item ∈ items, NestedBelow d n item
    | .pair a b => NestedBelow d n a ∧ NestedBelow d n b
    | _ => True

/-- Without integers that are too long, a value is held by the parts whose lists are not nested too
deep. -/
theorem exists_holds_iff (short : ∀ j, (d.unfold j).isTooLong = false) {n : Nat} :
    (∃ v, d.Holds n i v) ↔ d.NestedBelow n i := by
  induction n generalizing i with
  | zero => simp [Holds, NestedBelow]
  | succ n ih =>
    cases part : d.part i with
    | list items =>
      simp only [Holds, NestedBelow, part]
      constructor
      · rintro ⟨_, vs, -, holds⟩
        clear part
        induction holds with
        | nil => exact List.forall_mem_nil _
        | cons one _ others => exact List.forall_mem_cons.2 ⟨ih.1 ⟨_, one⟩, others⟩
      · intro nested
        choose! value held using fun item member => ih.2 (nested item member)
        exact ⟨_, items.map value, rfl, List.forall₂_map_right_iff.2 (List.forall₂_same.2 held)⟩
    | pair a b =>
      simp only [Holds, NestedBelow, part, ← ih]
      constructor
      · rintro ⟨_, first, second, -, one, other⟩
        exact ⟨⟨first, one⟩, ⟨second, other⟩⟩
      · rintro ⟨⟨first, one⟩, ⟨second, other⟩⟩
        exact ⟨_, first, second, rfl, one, other⟩
    | leaf v | dict entries | set members =>
      simp only [Holds, NestedBelow, part, iff_true]
      exact ⟨_, rfl, short i⟩

/-- Where no integer is too long, the parts that have a wording are those whose lists are not nested
too deep. -/
theorem exists_wording_iff (short : ∀ j, (d.unfold j).isTooLong = false) :
    (∃ t, d.wording i = .ok t) ↔ d.NestedBelow maxDepth i := by
  rw [← exists_holds_iff short]
  constructor
  · rintro ⟨t, worded⟩
    obtain ⟨v, holds, -⟩ := wordingIn_eq_ok_iff.1 worded
    exact ⟨v, holds⟩
  · rintro ⟨v, holds⟩
    exact ⟨v.text, wordingIn_eq_ok_iff.2 ⟨v, holds, rfl⟩⟩

/-- A list of texts is held as soon as lists are read at all. -/
theorem holds_texts {items : List PartId} {ts : List Text} (part : d.part i = .list items)
    (leaves : items.map d.part = ts.map fun t => .leaf (.ofText t)) {n : Nat} (deep : 2 ≤ n) :
    d.Holds n i (.list (ts.map .ofText)) := by
  obtain ⟨n, rfl⟩ := Nat.exists_eq_add_of_le' deep
  have each : List.Forall₂ (d.Holds (n + 1)) items (ts.map .ofText) := by
    clear part
    induction items generalizing ts with
    | nil =>
      obtain rfl : ts = [] := List.map_eq_nil_iff.1 leaves.symm
      exact .nil
    | cons item items ih =>
      cases ts with
      | nil => cases leaves
      | cons t ts =>
        rw [List.map_cons, List.map_cons] at leaves
        obtain ⟨first, others⟩ := List.cons.inj leaves
        refine .cons ?_ (ih others)
        simp only [Holds, first]
        refine ⟨?_, rfl⟩
        simp only [unfold, unfoldIn, first]
  simp only [Holds, part]
  exact ⟨_, rfl, each⟩

end Document

namespace Catalog

variable {logger key : Text} {d : Document} {i : PartId} {items : List PartId}

/-- What a list makes under a key is the wording of the value whose lists it is. -/
theorem entryOf_list (part : d.part i = .list items) {entry : Entry} :
    (entryOf logger key d i).result = .ok entry ↔
      ∃ v, d.Holds Document.maxDepth i v ∧ .text v.text = entry := by
  have made : (entryOf logger key d i).result =
      ((d.wording i).map Entry.text).mapError .noText := by
    simp only [entryOf, part]
  rw [made]
  constructor
  · intro h
    cases worded : d.wording i with
    | error f => rw [worded] at h; cases h
    | ok t =>
      rw [worded] at h
      obtain ⟨v, holds, rfl⟩ := Document.wordingIn_eq_ok_iff.1 worded
      exact ⟨v, holds, Except.ok.inj h⟩
  · rintro ⟨v, holds, rfl⟩
    have worded : d.wording i = .ok v.text := Document.wordingIn_eq_ok_iff.2 ⟨v, holds, rfl⟩
    rw [worded]
    rfl

/-- **Lists and lines correspond.** The lines of a list with items are those of its items in their
order, down to any depth, and an empty list is an empty line wherever it stands. No line is lost:
the lines of a text, joined again, are the text. A catalog stores for a list in a file the wording
of the value whose lists it is, so a list of texts without line breaks is there again, entry by
entry, in the lines of what is got for its key. -/
theorem lists_are_lines :
    (∀ items : List Value, items ≠ [] →
      Value.lines (Value.list items).text = items.flatMap fun v => Value.lines v.text) ∧
    Value.lines (Value.list []).text = [[]] ∧
    (∀ v : Value, Value.lines v.text = v.rows) ∧
    (∀ t : Text, Text.joinWith Value.newLine (Value.lines t) = t) ∧
    (∀ (logger key : Text) (d : Document) (i : PartId) (items : List PartId),
      d.part i = .list items → ∀ entry, (entryOf logger key d i).result = .ok entry ↔
        ∃ v, d.Holds Document.maxDepth i v ∧ .text v.text = entry) ∧
    ∀ (logger key : Text) (d : Document) (i : PartId) (items : List PartId) (ts : List Text),
      d.part i = .list items → (items.map d.part = ts.map fun t => .leaf (.ofText t)) →
      ts ≠ [] → (∀ t ∈ ts, '\n' ∉ t) →
      ∃ stored, (entryOf logger key d i).result = .ok (.text stored) ∧ Value.lines stored = ts ∧
        ∀ (c : Catalog) (draws : Draws),
          ((c.add key (.text stored)).get draws key).1 = some stored := by
  refine ⟨fun _ => Value.lines_list, rfl, Value.lines_text, Text.joinWith_splitOn '\n',
    fun _ _ _ _ _ part _ => entryOf_list part, ?_⟩
  intro logger key d i items ts part leaves some unbroken
  have held : d.Holds Document.maxDepth i (.list (ts.map .ofText)) :=
    Document.holds_texts part leaves (by decide)
  refine ⟨_, (entryOf_list part).2 ⟨_, held, rfl⟩, Value.lines_of_texts some unbroken, ?_⟩
  intro c draws
  rw [get, add, Entries.find?_insert, if_pos rfl]

/-- A list with an empty list and an empty text in it, a text of two lines, and a list of texts that
is read from a file. -/
theorem lists_are_lines_ragged :
    let ragged : Value := .list [.list [], .list [.ofText "a\nb".toList, .list [.list [], .null]],
      .ofText []]
    let file : Document := ⟨#[.list [1, 2], .leaf (.ofText ['x']), .leaf (.ofText [])], 0⟩
    Value.lines ragged.text = [[], ['a'], ['b'], [], [], []] ∧
      ∃ stored, (entryOf [] ['k'] file 0).result = .ok (.text stored) ∧
        Value.lines stored = [['x'], []] := by
  intro ragged file
  obtain ⟨-, -, rows, -, -, texts⟩ := lists_are_lines
  obtain ⟨stored, made, lines, -⟩ := texts [] ['k'] file 0 [1, 2] [['x'], []] rfl rfl
    (by decide) (by decide)
  exact ⟨(rows ragged).trans (by decide), stored, made, lines⟩

end Catalog

end Phrasebook
