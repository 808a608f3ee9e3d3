import Phrasebook.Markup
import Phrasebook.Proofs.Text.Cuts

/-!
# The grammar of rich text

A line of rich text is plain stretches with markers between them (`Line`). No plain stretch
has the opening of a marker in it. A marker has an operator and two arguments, none of which
has a colon or a closing bracket, with no opening among them. Segmenting accepts exactly the
lines of the grammar, and takes each of them apart in the only way there is
(`segment_grammar`).

The reader is followed on a text that falls apart: it passes a plain stretch and then goes on
with the rest (`readPlain_append`), and the same inside of markers (`readBody_append`).
-/

namespace Phrasebook

namespace Markup

/-- The start of a marker. -/
def opening : Text := ['[', '@']

/-- An operator with its two arguments. -/
structure Marker where
  operator : Text
  payload : Text
  text : Text
  deriving DecidableEq, Repr

namespace Marker

/-- What stands between the opening and the closing bracket. -/
def body (m : Marker) : Text := m.operator ++ ':' :: (m.payload ++ ':' :: m.text)

/-- The parts are kept apart by the colons, nothing opens or closes a marker among them, and
the operator is known. -/
structure WellFormed (m : Marker) : Prop where
  colons : ∀ part ∈ [m.operator, m.payload, m.text], ':' ∉ part
  closings : ∀ part ∈ [m.operator, m.payload, m.text], ']' ∉ part
  openings : ¬ opening <:+: m.body
  known : Text.lower (Text.trim m.operator) = "command".toList ∨
    Text.lower (Text.trim m.operator) = "hover".toList

/-- The segment that a marker stands for. -/
def segment (m : Marker) : Segment where
  text := Text.trim m.text
  action := some ⟨.runCommand, Text.trim m.payload⟩

end Marker

/-- Plain stretches with markers between them. -/
inductive Line where
  | ends (plain : Text)
  | marked (plain : Text) (m : Marker) (rest : Line)
  deriving DecidableEq, Repr

namespace Line

/-- How a line is written. -/
def source : Line → Text
  | ends plain => plain
  | marked plain m rest => plain ++ '[' :: '@' :: (m.body ++ ']' :: rest.source)

/-- No plain stretch has the opening of a marker, and every marker is well formed. -/
def WellFormed : Line → Prop
  | ends plain => ¬ opening <:+: plain
  | marked plain m rest => ¬ opening <:+: plain ∧ m.WellFormed ∧ rest.WellFormed

/-- The segments of a line: one for every plain stretch that is not empty, and one for every
marker. -/
def segments : Line → List Segment
  | ends plain => plainSegment plain
  | marked plain m rest => plainSegment plain ++ m.segment :: rest.segments

/-- The line as the reader has it. -/
def markup : Line → Markup
  | ends plain => .ends plain
  | marked plain m rest => .marker plain m.body rest.markup

end Line

/-- A text before the plain text at the front. -/
def prepend (p : Text) : Markup → Markup
  | ends plain => ends (p ++ plain)
  | unterminated plain => unterminated (p ++ plain)
  | nested plain offset => nested (p ++ plain) offset
  | marker plain body rest => marker (p ++ plain) body rest

/-- A text before the body. -/
def Opened.prepend (b : Text) : Opened → Opened
  | closed body rest => closed (b ++ body) rest
  | nested offset => nested offset
  | unterminated => unterminated

theorem prepend_nil (m : Markup) : m.prepend [] = m := by cases m <;> rfl

theorem prepend_cons (c : Char) (p : Text) (m : Markup) :
    m.prepend (c :: p) = consPlain c (m.prepend p) := by cases m <;> rfl

theorem Opened.prepend_nil (o : Opened) : o.prepend [] = o := by cases o <;> rfl

theorem Opened.prepend_cons (c : Char) (b : Text) (o : Opened) :
    o.prepend (c :: b) = (o.prepend b).consBody c := by cases o <;> rfl

/-- Nothing opens at the front of a text that starts with a stretch without openings. -/
theorem not_opens {c : Char} {p tail : Text} (hp : ¬ opening <:+: c :: p)
    (htail : tail.head? ≠ some '@') :
    ∀ r, c = '[' → p ++ tail = '@' :: r → False := by
  rintro r rfl h
  cases p with
  | nil => exact htail (by rw [List.nil_append] at h; rw [h]; rfl)
  | cons d p =>
    obtain rfl : d = '@' := (List.cons.inj h).1
    exact hp (List.prefix_append opening p).isInfix

/-- The reader passes a plain stretch. -/
theorem readPlain_append {p tail : Text} (hp : ¬ opening <:+: p) (htail : tail.head? ≠ some '@')
    (offset : Nat) :
    readPlain offset (p ++ tail) = (readPlain (offset + p.length) tail).prepend p := by
  induction p generalizing offset with
  | nil => exact (prepend_nil _).symm
  | cons c p ih =>
    have rest := ih (fun h => hp (h.trans (List.suffix_cons c p).isInfix)) (offset + 1)
    rw [List.cons_append, readPlain.eq_3 _ _ _ (not_opens hp htail), rest, prepend_cons,
      List.length_cons, Nat.add_assoc, Nat.add_comm 1]

/-- Inside of a marker the reader passes what neither opens nor closes one. -/
theorem readBody_append {b tail : Text} (hb : ¬ opening <:+: b) (hclose : ']' ∉ b)
    (htail : tail.head? ≠ some '@') (offset : Nat) :
    readBody offset (b ++ tail) = (readBody (offset + b.length) tail).prepend b := by
  induction b generalizing offset with
  | nil => exact (Opened.prepend_nil _).symm
  | cons c b ih =>
    obtain ⟨hc, hclose⟩ := List.ne_and_not_mem_of_not_mem_cons hclose
    have rest := ih (fun h => hb (h.trans (List.suffix_cons c b).isInfix)) hclose (offset + 1)
    rw [List.cons_append, readBody.eq_4 _ _ _ (not_opens hb htail) (Ne.symm hc), rest,
      Opened.prepend_cons, List.length_cons, Nat.add_assoc, Nat.add_comm 1]

section Reading

variable {p b : Text}

theorem readPlain_ends (hp : ¬ opening <:+: p) (offset : Nat) : readPlain offset p = ends p := by
  have passed : readPlain offset (p ++ []) = (readPlain (offset + p.length) []).prepend p :=
    readPlain_append hp (by simp) offset
  rw [List.append_nil, readPlain.eq_1, prepend, List.append_nil] at passed
  exact passed

theorem readPlain_opening (hp : ¬ opening <:+: p) (offset : Nat) (r : Text) :
    readPlain offset (p ++ '[' :: '@' :: r) =
      (ofOpened (readBody (offset + p.length + 2) r)).prepend p := by
  rw [readPlain_append hp (by simp) offset, readPlain.eq_2]

theorem readBody_unterminated (hb : ¬ opening <:+: b) (hclose : ']' ∉ b) (offset : Nat) :
    readBody offset b = .unterminated := by
  have passed : readBody offset (b ++ []) = (readBody (offset + b.length) []).prepend b :=
    readBody_append hb hclose (by simp) offset
  rw [List.append_nil, readBody.eq_1] at passed
  exact passed

theorem readBody_nested (hb : ¬ opening <:+: b) (hclose : ']' ∉ b) (offset : Nat) (r : Text) :
    readBody offset (b ++ '[' :: '@' :: r) = .nested (offset + b.length) := by
  rw [readBody_append hb hclose (by simp) offset, readBody.eq_2]
  rfl

theorem readBody_closing (hb : ¬ opening <:+: b) (hclose : ']' ∉ b) (offset : Nat) (r : Text) :
    readBody offset (b ++ ']' :: r) = .closed b (readPlain (offset + b.length + 1) r) := by
  rw [readBody_append hb hclose (by simp) offset, readBody.eq_3, Opened.prepend, List.append_nil]

/-- A marker behind a plain stretch is read with its body, and reading goes on behind it. -/
theorem readPlain_closing (hp : ¬ opening <:+: p) (hb : ¬ opening <:+: b) (hclose : ']' ∉ b)
    (offset : Nat) (r : Text) :
    readPlain offset (p ++ '[' :: '@' :: (b ++ ']' :: r)) =
      marker p b (readPlain (offset + p.length + 2 + b.length + 1) r) := by
  rw [readPlain_opening hp, readBody_closing hb hclose, ofOpened, prepend, List.append_nil]

end Reading

namespace Marker

variable {m m' : Marker}

theorem WellFormed.splitOn_body (h : m.WellFormed) :
    Text.splitOn ':' m.body = [m.operator, m.payload, m.text] := by
  have operator : ':' ∉ m.operator := h.colons _ (by simp)
  have payload : ':' ∉ m.payload := h.colons _ (by simp)
  have text : ':' ∉ m.text := h.colons _ (by simp)
  rw [body, Text.splitOn_append operator, Text.splitOn_append payload,
    Text.splitOn_of_not_mem text]

/-- A marker is known by its body. -/
theorem WellFormed.eq_of_body_eq (h : m.WellFormed) (h' : m'.WellFormed)
    (hbody : m.body = m'.body) : m = m' := by
  have parts : [m.operator, m.payload, m.text] = [m'.operator, m'.payload, m'.text] := by
    rw [← h.splitOn_body, ← h'.splitOn_body, hbody]
  cases m
  cases m'
  simp_all

theorem WellFormed.closing_not_mem_body (h : m.WellFormed) : ']' ∉ m.body := by
  have operator : ']' ∉ m.operator := h.closings _ (by simp)
  have payload : ']' ∉ m.payload := h.closings _ (by simp)
  have text : ']' ∉ m.text := h.closings _ (by simp)
  simp [body, operator, payload, text]

/-- A well-formed marker is read as its segment. -/
theorem WellFormed.interpret_body (h : m.WellFormed) : interpret m.body = .ok m.segment := by
  have arity : arity? (Text.lower (Text.trim m.operator)) = some 2 := if_pos h.known
  simp [interpret, h.splitOn_body, arity, segment]

/-- A body without openings and closings that is read at all is that of a marker. -/
theorem exists_of_interpret {b : Text} {s : Segment} (hopen : ¬ opening <:+: b)
    (hclose : ']' ∉ b) (h : interpret b = .ok s) :
    ∃ m : Marker, m.WellFormed ∧ m.body = b ∧ m.segment = s := by
  have free : ∀ q ∈ Text.splitOn ':' b, ':' ∉ q := fun q => Text.not_mem_of_mem_splitOn
  have joined := Text.joinWith_splitOn ':' b
  match hsplit : Text.splitOn ':' b with
  | [] => simp [interpret, hsplit] at h
  | [operator] => simp [interpret, hsplit] at h
  | operator :: first :: others =>
    cases harity : arity? (Text.lower (Text.trim operator)) with
    | none => simp [interpret, hsplit, harity] at h
    | some n =>
      match others with
      | [] => simp [interpret, hsplit, harity] at h
      | _ :: _ :: _ => simp [interpret, hsplit, harity] at h
      | [text] =>
        obtain rfl : (⟨operator, first, text⟩ : Marker).segment = s := by
          simpa [interpret, hsplit, harity, segment] using h
        have hbody : (⟨operator, first, text⟩ : Marker).body = b := by
          rw [hsplit] at joined
          simpa [Text.joinWith, body] using joined
        refine ⟨⟨operator, first, text⟩, ⟨hsplit ▸ free, fun part hpart hmem => ?_, ?_, ?_⟩,
          hbody, rfl⟩
        · refine hclose (hbody ▸ ?_)
          simp only [List.mem_cons, List.not_mem_nil, or_false] at hpart
          rcases hpart with rfl | rfl | rfl <;> simp [body, hmem]
        · rwa [hbody]
        · by_cases hknown : Text.lower (Text.trim operator) = "command".toList ∨
            Text.lower (Text.trim operator) = "hover".toList
          · exact hknown
          · rw [arity?, if_neg hknown] at harity
            cases harity

end Marker

/-- The first faulty marker is the fault of the line. -/
theorem segments_of_faulty {p b : Text} {fault : MarkupFault} (h : interpret b = .error fault)
    (rest : Markup) : (marker p b rest).segments = .error fault := by
  rw [segments, h]
  rfl

theorem segments_of_read {p b : Text} {s : Segment} (h : interpret b = .ok s) (rest : Markup) :
    (marker p b rest).segments = rest.segments.map fun others => plainSegment p ++ s :: others := by
  rw [segments, h]
  cases rest.segments <;> rfl

theorem segments_markup {line : Line} (h : line.WellFormed) :
    line.markup.segments = .ok line.segments := by
  induction line with
  | ends plain => rfl
  | marked plain m rest ih =>
    rw [Line.markup, segments_of_read h.2.1.interpret_body, ih h.2.2]
    rfl

/-- Well-formed lines are read back. -/
theorem readPlain_source {line : Line} (h : line.WellFormed) (offset : Nat) :
    readPlain offset line.source = line.markup := by
  induction line generalizing offset with
  | ends plain => exact readPlain_ends h offset
  | marked plain m rest ih =>
    obtain ⟨hplain, hm, hrest⟩ := h
    rw [Line.source, readPlain_closing hplain hm.openings hm.closing_not_mem_body, ih hrest]
    rfl

/-- A line is known by what the reader has of it. -/
theorem Line.eq_of_markup_eq {line line' : Line} (h : line.WellFormed) (h' : line'.WellFormed)
    (hmarkup : line.markup = line'.markup) : line = line' := by
  induction line generalizing line' with
  | ends plain =>
    cases line' with
    | ends plain' => exact congrArg Line.ends (Markup.ends.inj hmarkup)
    | marked => cases hmarkup
  | marked plain m rest ih =>
    cases line' with
    | ends => cases hmarkup
    | marked plain' m' rest' =>
      obtain ⟨rfl, hbody, hrest⟩ := Markup.marker.inj hmarkup
      obtain rfl : m = m' := h.2.1.eq_of_body_eq h'.2.1 hbody
      obtain rfl : rest = rest' := ih h.2.2 h'.2.2 hrest
      rfl

/-- A plain stretch ends where the text ends or a marker starts. -/
theorem exists_plain (text : Text) : ∃ p, ¬ opening <:+: p ∧
    (text = p ∨ ∃ r, text = p ++ '[' :: '@' :: r) := by
  obtain ⟨p, tail, rfl, hstop, hfirst⟩ := Text.exists_first_cut (opening <+: ·) text
  refine ⟨p, fun ⟨q, r, hp⟩ => ?_, ?_⟩
  · refine hfirst q (opening ++ r) (by rw [← hp, List.append_assoc]) (by simp [opening]) ?_
    rw [List.append_assoc]
    exact List.prefix_append opening _
  · rcases hstop with rfl | ⟨r, rfl⟩
    · exact .inl (List.append_nil p)
    · exact .inr ⟨r, rfl⟩

/-- A body ends where the text ends, or a marker starts, or the closing bracket stands. -/
theorem exists_body (text : Text) : ∃ b, ¬ opening <:+: b ∧ ']' ∉ b ∧
    (text = b ∨ (∃ r, text = b ++ '[' :: '@' :: r) ∨ ∃ r, text = b ++ ']' :: r) := by
  obtain ⟨b, tail, rfl, hstop, hfirst⟩ :=
    Text.exists_first_cut (fun t => opening <+: t ∨ [']'] <+: t) text
  refine ⟨b, fun ⟨q, r, hb⟩ => ?_, fun hmem => ?_, ?_⟩
  · refine hfirst q (opening ++ r) (by rw [← hb, List.append_assoc]) (by simp [opening]) (.inl ?_)
    rw [List.append_assoc]
    exact List.prefix_append opening _
  · obtain ⟨q, r, rfl⟩ := List.append_of_mem hmem
    exact hfirst q (']' :: r) rfl (List.cons_ne_nil _ _) (.inr (List.prefix_append [']'] _))
  · rcases hstop with rfl | ⟨r, rfl⟩ | ⟨r, rfl⟩
    · exact .inl (List.append_nil b)
    · exact .inr (.inl ⟨r, rfl⟩)
    · exact .inr (.inr ⟨r, rfl⟩)

/-- What is segmented without a fault is a line. The recursion is on the length of the text:
reading goes on behind the first marker. -/
theorem exists_line (offset : Nat) (text : Text) {segs : List Segment}
    (h : (readPlain offset text).segments = .ok segs) :
    ∃ line : Line, line.WellFormed ∧ line.source = text ∧ line.segments = segs := by
  obtain ⟨p, hp, rfl | ⟨r, rfl⟩⟩ := exists_plain text
  · rw [readPlain_ends hp] at h
    exact ⟨.ends _, hp, rfl, Except.ok.inj h⟩
  · obtain ⟨b, hb, hclose, rfl | ⟨r, rfl⟩ | ⟨r, rfl⟩⟩ := exists_body r
    · rw [readPlain_opening hp, readBody_unterminated hb hclose] at h
      cases h
    · rw [readPlain_opening hp, readBody_nested hb hclose] at h
      cases h
    · rw [readPlain_closing hp hb hclose] at h
      cases hbody : interpret b with
      | error fault =>
        rw [segments_of_faulty hbody] at h
        cases h
      | ok s =>
        rw [segments_of_read hbody] at h
        cases hothers : (readPlain (offset + p.length + 2 + b.length + 1) r).segments with
        | error fault =>
          rw [hothers] at h
          cases h
        | ok others =>
          obtain ⟨m, hm, rfl, rfl⟩ := Marker.exists_of_interpret hb hclose hbody
          obtain ⟨rest, hrest, rfl, rfl⟩ := exists_line _ r hothers
          rw [hothers] at h
          exact ⟨.marked p m rest, ⟨hp, hm, hrest⟩, rfl, Except.ok.inj h⟩
termination_by text.length
decreasing_by
  subst_vars
  simp only [List.length_append, List.length_cons]
  omega

/-- Segmenting accepts exactly the lines of the grammar and gives their segments, and a text
is a line in one way only. -/
theorem segment_grammar (text : Text) :
    (∀ segs, Phrasebook.segment text = .ok segs ↔
      ∃ line : Line, line.WellFormed ∧ line.source = text ∧ line.segments = segs) ∧
    ∀ line line' : Line, line.WellFormed → line'.WellFormed → line.source = text →
      line'.source = text → line = line' := by
  refine ⟨fun segs => ⟨exists_line 0 text, ?_⟩, ?_⟩
  · rintro ⟨line, h, rfl, rfl⟩
    rw [Phrasebook.segment, Markup.read, readPlain_source h, segments_markup h]
  · rintro line line' h h' rfl hsource
    refine Line.eq_of_markup_eq h h' ?_
    rw [← readPlain_source h 0, ← readPlain_source h' 0, hsource]

theorem unopened_of_hasPair {p : Text} (h : Text.hasPair '[' '@' p = false) : ¬ opening <:+: p := by
  rw [opening, ← Text.hasPair_iff, h]
  exact Bool.false_ne_true

/-- A line with one marker. -/
def clickLine : Line :=
  .marked "hi ".toList ⟨"command".toList, " /spawn".toList, " click here".toList⟩
    (.ends " bye".toList)

theorem segment_clickLine : clickLine.WellFormed ∧
    Phrasebook.segment clickLine.source = .ok [⟨"hi ".toList, none⟩,
      ⟨"click here".toList, some ⟨.runCommand, "/spawn".toList⟩⟩, ⟨" bye".toList, none⟩] := by
  have marker : Marker.WellFormed ⟨"command".toList, " /spawn".toList, " click here".toList⟩ :=
    ⟨by decide, by decide, unopened_of_hasPair rfl, .inl (by decide +kernel)⟩
  have line : clickLine.WellFormed :=
    ⟨unopened_of_hasPair rfl, marker, unopened_of_hasPair rfl⟩
  exact ⟨line, ((segment_grammar clickLine.source).1 _).2 ⟨clickLine, line, rfl, by decide +kernel⟩⟩

end Markup

end Phrasebook
