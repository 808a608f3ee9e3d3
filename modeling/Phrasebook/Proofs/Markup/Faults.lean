import Phrasebook.Proofs.Markup.Grammar
import Mathlib.Data.List.Infix

/-!
# The first bad marker

A text that is no line of the grammar stops to be one at an opening: a line stands before it, but no
well-formed marker behind it (`Stops`). What is wrong with that marker is decided by what comes
first behind the opening, another opening or a closing bracket, and by the colons in between
(`faultBehind`). This is the fault of the text, and what stands behind the point of decision has no
part in it (`segment_error_iff`).
-/

namespace Phrasebook

namespace Markup

/-- Where the first opening is. A text without one has it behind its end. -/
def openingIdx (text : Text) : Nat := text.tails.findIdx opening.isPrefixOf

/-- What is wrong with a body. -/
def bodyFault (body : Text) : MarkupFault :=
  if ':' ∈ body then
    let operator := Text.lower (Text.trim (body.takeWhile (· != ':')))
    if operator = "command".toList ∨ operator = "hover".toList then
      .arity operator 2 (body.count ':')
    else .unknownOperator operator
  else .noOperator

/-- What is wrong with a marker, by the text behind its opening. The offset is that of this text. -/
def faultBehind (offset : Nat) (rest : Text) : MarkupFault :=
  let nested := openingIdx rest
  let closing := rest.idxOf ']'
  if nested < closing then .nested (offset + nested)
  else if closing < rest.length then bodyFault (rest.take closing)
  else .unterminated

/-- How much of the text behind an opening decides about the fault: it ends with the first opening
or closing bracket. -/
def decisive (rest : Text) : Nat :=
  if openingIdx rest < rest.idxOf ']' then openingIdx rest + 2 else rest.idxOf ']' + 1

/-- A line, then an opening without a well-formed marker. -/
structure Stops (text : Text) (before : Line) (rest : Text) : Prop where
  line : before.WellFormed
  source : text = before.source ++ '[' :: '@' :: rest
  bad : ∀ m : Marker, m.WellFormed → ¬ m.body ++ [']'] <+: rest

section Index

variable {b tail : Text}

/-- A stretch without openings has none, whatever follows. -/
theorem le_openingIdx (hb : ¬ opening <:+: b) (htail : tail.head? ≠ some '@') :
    b.length ≤ openingIdx (b ++ tail) := by
  by_contra short
  have within : openingIdx (b ++ tail) < b.length := Nat.lt_of_not_le short
  have listed : openingIdx (b ++ tail) < (b ++ tail).tails.length := by
    rw [List.length_tails, List.length_append]
    omega
  have opens : opening <+: (b ++ tail).drop (openingIdx (b ++ tail)) := by
    -- the index is inside of the stretch, so it is that of an opening and not the end
    have found : opening.isPrefixOf (b ++ tail).tails[openingIdx (b ++ tail)] = true :=
      List.findIdx_getElem
    rwa [List.getElem_tails, List.isPrefixOf_iff_prefix] at found
  rw [List.drop_append_of_le_length within.le, List.drop_eq_getElem_cons within] at opens
  obtain ⟨r, hr⟩ := opens
  obtain ⟨hc, hrest⟩ := List.cons.inj hr
  refine not_opens (fun h => hb (h.trans ?_)) htail r hc.symm hrest.symm
  rw [← List.drop_eq_getElem_cons within]
  exact (List.drop_suffix _ b).isInfix

theorem openingIdx_opening (hb : ¬ opening <:+: b) (r : Text) :
    openingIdx (b ++ '[' :: '@' :: r) = b.length := by
  apply Nat.le_antisymm
  · by_contra further
    have earlier : opening.isPrefixOf (b ++ '[' :: '@' :: r).tails[b.length] = false :=
      List.not_of_lt_findIdx (Nat.lt_of_not_le further)
    rw [List.getElem_tails, List.drop_left] at earlier
    cases earlier
  · exact le_openingIdx hb (by simp)

theorem idxOf_closing (hclose : ']' ∉ b) (r : Text) : (b ++ ']' :: r).idxOf ']' = b.length := by
  rw [List.idxOf_append_of_notMem hclose, List.idxOf_cons_self, Nat.add_zero]

end Index

section Behind

variable {b : Text}

theorem faultBehind_unterminated (hb : ¬ opening <:+: b) (hclose : ']' ∉ b) (offset : Nat) :
    faultBehind offset b = .unterminated := by
  have nested : b.length ≤ openingIdx (b ++ []) := le_openingIdx hb (by simp)
  rw [List.append_nil] at nested
  have closing : b.idxOf ']' = b.length := List.idxOf_of_notMem hclose
  simp only [faultBehind, closing, nested.not_gt, lt_irrefl, if_false]

theorem faultBehind_nested (hb : ¬ opening <:+: b) (hclose : ']' ∉ b) (offset : Nat)
    (r : Text) :
    faultBehind offset (b ++ '[' :: '@' :: r) = .nested (offset + b.length) ∧
      decisive (b ++ '[' :: '@' :: r) = b.length + 2 := by
  have nested : openingIdx (b ++ '[' :: '@' :: r) = b.length := openingIdx_opening hb r
  have closing : b.length < (b ++ '[' :: '@' :: r).idxOf ']' := by
    rw [List.idxOf_append_of_notMem hclose, List.idxOf_cons_ne _ (by decide)]
    omega
  simp only [faultBehind, decisive, nested, closing, if_true, and_self]

theorem faultBehind_closing (hb : ¬ opening <:+: b) (hclose : ']' ∉ b) (offset : Nat)
    (r : Text) :
    faultBehind offset (b ++ ']' :: r) = bodyFault b ∧
      decisive (b ++ ']' :: r) = b.length + 1 := by
  have nested : b.length ≤ openingIdx (b ++ ']' :: r) := le_openingIdx hb (by simp)
  have closing : (b ++ ']' :: r).idxOf ']' = b.length := idxOf_closing hclose r
  have within : b.length < (b ++ ']' :: r).length := by simp
  simp only [faultBehind, decisive, closing, nested.not_gt, within, if_true, if_false,
    List.take_left, and_self]

end Behind

/-- The fault of a body with a colon is one of its operator, or of the number of its colons. -/
theorem bodyFault_append {first : Text} (h : ':' ∉ first) (others : Text) :
    bodyFault (first ++ ':' :: others) =
      if arity? (Text.lower (Text.trim first)) = none then
        .unknownOperator (Text.lower (Text.trim first))
      else .arity (Text.lower (Text.trim first)) 2 (Text.splitOn ':' others).length := by
  have apart : ∀ c ∈ first, (c != ':') = true := fun c hc => bne_iff_ne.2 fun same => h (same ▸ hc)
  have operator : (first ++ ':' :: others).takeWhile (· != ':') = first := by
    rw [List.takeWhile_append_of_pos apart, List.takeWhile_cons_of_neg (by simp), List.append_nil]
  have count : (first ++ ':' :: others).count ':' = (Text.splitOn ':' others).length := by
    rw [Text.length_splitOn, List.count_append, List.count_eq_zero_of_not_mem h,
      List.count_cons_self, Nat.zero_add]
  rw [bodyFault, if_pos (List.mem_append_right _ List.mem_cons_self), operator, count, arity?]
  by_cases known : Text.lower (Text.trim first) = "command".toList ∨
    Text.lower (Text.trim first) = "hover".toList
  · rw [if_pos known, if_pos known, if_neg (Option.some_ne_none 2)]
  · rw [if_neg known, if_neg known, if_pos rfl]

theorem eq_two_of_arity {operator : Text} {n : Nat} (h : arity? operator = some n) : n = 2 := by
  unfold arity? at h
  split at h
  · exact (Option.some.inj h).symm
  · cases h

/-- A body that is not read has its fault. If that is the number of arguments, there are not two of
them. -/
theorem interpret_cases (body : Text) : (∃ s, interpret body = .ok s) ∨
    interpret body = .error (bodyFault body) ∧
      ∀ operator expected given, bodyFault body = .arity operator expected given → given ≠ 2 := by
  by_cases h : ':' ∈ body
  · obtain ⟨first, others, rfl, hfirst⟩ := List.eq_append_cons_of_mem h
    have pieces := Text.splitOn_append hfirst others
    rw [bodyFault_append hfirst]
    cases known : arity? (Text.lower (Text.trim first)) with
    | none =>
      right
      cases hs : Text.splitOn ':' others with
      | nil => exact absurd hs (Text.splitOn_ne_nil ':' others)
      | cons a more => simp [interpret, pieces, hs, known]
    | some n =>
      obtain rfl : n = 2 := eq_two_of_arity known
      -- one, two or more arguments behind the operator; two are read
      rcases hs : Text.splitOn ':' others with _ | ⟨first, _ | ⟨second, _ | ⟨third, more⟩⟩⟩
      · exact absurd hs (Text.splitOn_ne_nil ':' others)
      · right
        simp [interpret, pieces, hs, known]
      · left
        simp [interpret, pieces, hs, known]
      · right
        simp [interpret, pieces, hs, known]
  · right
    simp [interpret, bodyFault, h, Text.splitOn_of_not_mem h]

/-- If no well-formed marker stands behind an opening, the marker is not read. Unless it is not
closed, the same happens before any other continuation of what decides. -/
theorem readBody_faulty {rest : Text}
    (bad : ∀ m : Marker, m.WellFormed → ¬ m.body ++ [']'] <+: rest) (offset : Nat) :
    (∀ operator expected given,
      faultBehind offset rest = .arity operator expected given → given ≠ 2) ∧
    (faultBehind offset rest = .unterminated ∧ readBody offset rest = .unterminated ∨
      ∀ other, (ofOpened (readBody offset (rest.take (decisive rest) ++ other))).segments =
        .error (faultBehind offset rest)) := by
  obtain ⟨b, hb, hclose, rfl | ⟨r, rfl⟩ | ⟨r, rfl⟩⟩ := exists_body rest
  · rw [faultBehind_unterminated hb hclose]
    exact ⟨nofun, .inl ⟨rfl, readBody_unterminated hb hclose offset⟩⟩
  · obtain ⟨fault, point⟩ := faultBehind_nested hb hclose offset r
    rw [fault, point]
    refine ⟨nofun, .inr fun other => ?_⟩
    have decided : (b ++ '[' :: '@' :: r).take (b.length + 2) = b ++ ['[', '@'] := by
      rw [List.take_length_add_append]
      rfl
    rw [decided, List.append_assoc]
    exact congrArg (fun o => (ofOpened o).segments) (readBody_nested hb hclose offset other)
  · obtain ⟨fault, point⟩ := faultBehind_closing hb hclose offset r
    rw [fault, point]
    rcases interpret_cases b with ⟨s, read⟩ | ⟨unread, arity⟩
    · obtain ⟨m, hm, rfl, -⟩ := Marker.exists_of_interpret hb hclose read
      have stands : m.body ++ [']'] <+: m.body ++ ']' :: r := ⟨r, List.append_assoc ..⟩
      exact absurd stands (bad m hm)
    · refine ⟨arity, .inr fun other => ?_⟩
      have decided : (b ++ ']' :: r).take (b.length + 1) = b ++ [']'] := by
        rw [List.take_length_add_append]
        rfl
      rw [decided, List.append_assoc]
      have closed := readBody_closing hb hclose offset other
      rw [List.singleton_append, closed]
      exact segments_of_faulty unread _

/-- The fault of a line does not depend on the plain text at its front. -/
theorem segments_prepend {m : Markup} {fault : MarkupFault} (h : m.segments = .error fault)
    (p : Text) : (m.prepend p).segments = .error fault := by
  cases m with
  | ends plain => cases h
  | unterminated plain => exact h
  | nested plain offset => exact h
  | marker plain body rest =>
    cases read : interpret body with
    | error f =>
      rw [segments_of_faulty read] at h
      exact (segments_of_faulty read rest).trans h
    | ok s =>
      rw [segments_of_read read] at h
      cases others : rest.segments with
      | ok segs =>
        rw [others] at h
        cases h
      | error f =>
        rw [others] at h
        exact (segments_of_read read rest).trans (by rw [others]; exact h)

/-- A line before an opening is passed. -/
theorem segments_behind {before : Line} (h : before.WellFormed) (offset : Nat) {rest : Text}
    {fault : MarkupFault}
    (faulty : (ofOpened (readBody (offset + before.source.length + 2) rest)).segments =
      .error fault) :
    (readPlain offset (before.source ++ '[' :: '@' :: rest)).segments = .error fault := by
  induction before generalizing offset with
  | ends plain =>
    have passed := readPlain_opening h offset rest
    rw [Line.source, passed]
    exact segments_prepend faulty plain
  | marked plain m line ih =>
    obtain ⟨hplain, hm, hline⟩ := h
    have lengths : offset + (Line.marked plain m line).source.length + 2 =
        offset + plain.length + 2 + m.body.length + 1 + line.source.length + 2 := by
      simp only [Line.source, List.length_append, List.length_cons]
      omega
    rw [lengths] at faulty
    have passed := readPlain_closing hplain hm.openings hm.closing_not_mem_body offset
      (line.source ++ '[' :: '@' :: rest)
    simp only [Line.source, List.append_assoc, List.cons_append, passed]
    rw [segments_of_read hm.interpret_body, ih hline _ faulty]
    rfl

theorem segment_behind {before : Line} (h : before.WellFormed) {rest : Text}
    {fault : MarkupFault}
    (faulty : (ofOpened (readBody (before.source.length + 2) rest)).segments = .error fault) :
    Phrasebook.segment (before.source ++ '[' :: '@' :: rest) = .error fault := by
  apply segments_behind h 0
  rwa [Nat.zero_add]

/-- A text that is no line stops to be one at some opening. The recursion is on the length of the
text: the search goes on behind the first marker. -/
theorem exists_stop (text : Text) :
    (∃ line : Line, line.WellFormed ∧ line.source = text) ∨
      ∃ before rest, Stops text before rest := by
  obtain ⟨p, hp, rfl | ⟨r, rfl⟩⟩ := exists_plain text
  · exact .inl ⟨.ends _, hp, rfl⟩
  · by_cases good : ∃ m : Marker, m.WellFormed ∧ m.body ++ [']'] <+: r
    · obtain ⟨m, hm, r, rfl⟩ := good
      obtain ⟨line, hline, rfl⟩ | ⟨before, rest, stops⟩ := exists_stop r
      · exact .inl ⟨.marked p m line, ⟨hp, hm, hline⟩, by simp [Line.source]⟩
      · exact .inr ⟨.marked p m before, rest, ⟨hp, hm, stops.line⟩,
          by simp [Line.source, stops.source], stops.bad⟩
    · exact .inr ⟨.ends p, r, hp, rfl, fun m hm h => good ⟨m, hm, h⟩⟩
termination_by text.length
decreasing_by
  subst_vars
  simp only [List.length_append, List.length_cons]
  omega

/-- A text is cut at its first opening in one way. -/
theorem opening_inj {p p' r r' : Text} (hp : ¬ opening <:+: p) (hp' : ¬ opening <:+: p')
    (same : p ++ '[' :: '@' :: r = p' ++ '[' :: '@' :: r') : p = p' ∧ r = r' := by
  have lengths : p.length = p'.length := by
    rw [← openingIdx_opening hp r, same, openingIdx_opening hp' r']
  obtain ⟨plain, tail⟩ := List.append_inj same lengths
  exact ⟨plain, (List.cons.inj (List.cons.inj tail).2).2⟩

/-- So it is at its first closing bracket. -/
theorem closing_inj {b b' r r' : Text} (hb : ']' ∉ b) (hb' : ']' ∉ b')
    (same : b ++ ']' :: r = b' ++ ']' :: r') : b = b' ∧ r = r' := by
  have lengths : b.length = b'.length := by
    rw [← idxOf_closing hb r, same, idxOf_closing hb' r']
  obtain ⟨body, tail⟩ := List.append_inj same lengths
  exact ⟨body, (List.cons.inj tail).2⟩

/-- A text that stops at its first opening does not stop behind a marker. -/
theorem Stops.not_marked {text p p' rest rest' : Text} {m : Marker} {line : Line}
    (h : Stops text (.ends p) rest) (h' : Stops text (.marked p' m line) rest') : False := by
  have cut : p' ++ '[' :: '@' :: (m.body ++ ']' :: (line.source ++ '[' :: '@' :: rest')) =
      p ++ '[' :: '@' :: rest := by
    simpa [Line.source] using h'.source.symm.trans h.source
  obtain ⟨-, rfl⟩ := opening_inj h'.line.1 h.line cut
  exact h.bad m h'.line.2.1 ⟨_, List.append_assoc ..⟩

/-- A text stops to be a line at one opening only. -/
theorem Stops.unique {text : Text} {before before' : Line} {rest rest' : Text}
    (h : Stops text before rest) (h' : Stops text before' rest') :
    before' = before ∧ rest' = rest := by
  induction before generalizing text before' with
  | ends p =>
    cases before' with
    | ends p' =>
      obtain ⟨rfl, rfl⟩ := opening_inj h'.line h.line (h'.source.symm.trans h.source)
      exact ⟨rfl, rfl⟩
    | marked p' m' line' => exact (h.not_marked h').elim
  | marked p m line ih =>
    cases before' with
    | ends p' => exact (h'.not_marked h).elim
    | marked p' m' line' =>
      have cut : p' ++ '[' :: '@' :: (m'.body ++ ']' :: (line'.source ++ '[' :: '@' :: rest')) =
          p ++ '[' :: '@' :: (m.body ++ ']' :: (line.source ++ '[' :: '@' :: rest)) := by
        simpa [Line.source] using h'.source.symm.trans h.source
      obtain ⟨hp, hm, hline⟩ := h.line
      obtain ⟨hp', hm', hline'⟩ := h'.line
      obtain ⟨rfl, behind⟩ := opening_inj hp' hp cut
      obtain ⟨body, further⟩ :=
        closing_inj hm'.closing_not_mem_body hm.closing_not_mem_body behind
      obtain rfl : m' = m := hm'.eq_of_body_eq hm body
      obtain ⟨rfl, rfl⟩ := ih ⟨hline, rfl, h.bad⟩ ⟨hline', further.symm, h'.bad⟩
      exact ⟨rfl, rfl⟩

/-- The fault of a text is what is wrong where it stops to be a line. -/
theorem Stops.segment {text : Text} {before : Line} {rest : Text} (h : Stops text before rest) :
    Phrasebook.segment text = .error (faultBehind (before.source.length + 2) rest) := by
  rw [h.source]
  apply segment_behind h.line
  obtain ⟨-, ⟨fault, ended⟩ | decided⟩ := readBody_faulty h.bad (before.source.length + 2)
  · rw [ended, fault]
    rfl
  · have whole := decided (rest.drop (decisive rest))
    rwa [List.take_append_drop] at whole

/-- A text has a fault exactly if it stops to be a line somewhere, and the fault is what is wrong
there. It stops at one opening only. A wrong number of arguments is not two. Unless the marker is
not closed, the text has the same fault with anything else behind the part that decides. -/
theorem segment_error_iff (text : Text) :
    (∀ fault, Phrasebook.segment text = .error fault ↔ ∃ before rest, Stops text before rest ∧
      fault = faultBehind (before.source.length + 2) rest) ∧
    ∀ before rest, Stops text before rest →
      (∀ before' rest', Stops text before' rest' → before' = before ∧ rest' = rest) ∧
      let fault := faultBehind (before.source.length + 2) rest
      (∀ operator expected given, fault = .arity operator expected given → given ≠ 2) ∧
      (fault = .unterminated ∨ ∀ other, Phrasebook.segment
        (before.source ++ '[' :: '@' :: (rest.take (decisive rest) ++ other)) = .error fault) := by
  constructor
  · intro fault
    constructor
    · intro rejected
      obtain ⟨line, hline, rfl⟩ | ⟨before, rest, stops⟩ := exists_stop text
      · have accepted : Phrasebook.segment line.source = .ok line.segments := by
          rw [Phrasebook.segment, Markup.read, readPlain_source hline, segments_markup hline]
        rw [accepted] at rejected
        cases rejected
      · exact ⟨before, rest, stops, Except.error.inj (rejected.symm.trans stops.segment)⟩
    · rintro ⟨before, rest, stops, rfl⟩
      exact stops.segment
  · intro before rest stops
    obtain ⟨arity, decided⟩ := readBody_faulty stops.bad (before.source.length + 2)
    refine ⟨fun before' rest' => stops.unique, arity, decided.imp And.left fun decided other => ?_⟩
    exact segment_behind stops.line (decided other)

/-- A line with three markers. The second has one argument too many, and the third no operator. -/
def sloppyLine : Text := "a[@hover:b:c]d[@ HOVER :e:f:]g[@]".toList

/-- What stands before the second marker. -/
def sloppyStart : Line := .marked ['a'] ⟨"hover".toList, ['b'], ['c']⟩ (.ends ['d'])

theorem segment_error_sloppy :
    Stops sloppyLine sloppyStart " HOVER :e:f:]g[@]".toList ∧
      Phrasebook.segment sloppyLine = .error (.arity "hover".toList 2 3) ∧ 3 ≠ 2 ∧
      Phrasebook.segment "a[@hover:b:c]d[@ HOVER :e:f:] [@".toList =
        .error (.arity "hover".toList 2 3) := by
  have marker : Marker.WellFormed ⟨"hover".toList, ['b'], ['c']⟩ :=
    ⟨by decide, by decide, unopened_of_hasPair rfl, .inr (by decide +kernel)⟩
  have line : sloppyStart.WellFormed := ⟨unopened_of_hasPair rfl, marker, unopened_of_hasPair rfl⟩
  have bad (m : Marker) (hm : m.WellFormed) : ¬ m.body ++ [']'] <+: " HOVER :e:f:]g[@]".toList := by
    rintro ⟨r, same⟩
    have cut : m.body ++ ']' :: r = " HOVER :e:f:".toList ++ ']' :: "g[@]".toList := by
      simpa using same
    obtain ⟨body, -⟩ := closing_inj hm.closing_not_mem_body (by decide) cut
    have pieces : 3 = m.body.count ':' + 1 := by
      rw [← Text.length_splitOn, hm.splitOn_body]
      rfl
    rw [body] at pieces
    exact absurd pieces (by decide)
  have stops : Stops sloppyLine sloppyStart " HOVER :e:f:]g[@]".toList := ⟨line, rfl, bad⟩
  have fault : faultBehind (sloppyStart.source.length + 2) " HOVER :e:f:]g[@]".toList =
      .arity "hover".toList 2 3 := by decide +kernel
  obtain ⟨rejected, decided⟩ := segment_error_iff sloppyLine
  obtain ⟨-, arity, continued⟩ := decided _ _ stops
  rw [fault] at continued
  refine ⟨stops, (rejected _).2 ⟨_, _, stops, fault.symm⟩, arity _ _ _ fault, ?_⟩
  exact continued.resolve_left nofun " [@".toList

end Markup

end Phrasebook
