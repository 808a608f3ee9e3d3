import Phrasebook.Proofs.Color.Translation
import Phrasebook.Proofs.Markup.Grammar
import Phrasebook.Proofs.Text.Case

/-!
# Colours do not touch markup

A line can be coloured before it is segmented or afterwards (`segment_translate`). The characters
that markup is made of and white space are never replaced, so reading a coloured line gives the
coloured parts of the line (`readPlain_translate`), and the body of a marker has the same operator
and the coloured arguments (`interpret_translate`). An operator with an ampersand is unknown, and so
is what colouring makes of it.
-/

namespace Phrasebook

open Color (translate)

/-- The segment with a change made to its texts. -/
def Segment.map (f : Text → Text) (s : Segment) : Segment where
  text := f s.text
  action := s.action.map fun a => { a with payload := f a.payload }

namespace Markup

/-- The line with a change made to its parts. -/
def map (f : Text → Text) : Markup → Markup
  | ends plain => ends (f plain)
  | unterminated plain => unterminated (f plain)
  | nested plain offset => nested (f plain) offset
  | marker plain body rest => marker (f plain) (f body) (rest.map f)

theorem foreign_ampersand : Color.isCode '&' = false := by decide

theorem inert_of_isBlank {c : Char} (h : Text.isBlank c = true) : Color.Inert '&' c := by
  have visible : (Color.sign :: '&' :: Color.codes).all (fun d => !Text.isBlank d) = true := by
    decide +kernel
  refine Color.inert_iff.2 fun written => ?_
  have seen := List.all_eq_true.1 visible c written
  rw [h] at seen
  cases seen

section Delimiters

theorem inert_bracket : Color.Inert '&' '[' := Color.inert_iff.2 (by decide)

theorem inert_at : Color.Inert '&' '@' := Color.inert_iff.2 (by decide)

theorem inert_closing : Color.Inert '&' ']' := Color.inert_iff.2 (by decide)

theorem inert_colon : Color.Inert '&' ':' := Color.inert_iff.2 (by decide)

variable {s : Text}

theorem unopened_translate (h : ¬ opening <:+: s) : ¬ opening <:+: translate ['&'] s := fun opens =>
  h ((inert_bracket.pair_infix_translate foreign_ampersand inert_at).1 opens)

theorem unclosed_translate (h : ']' ∉ s) : ']' ∉ translate ['&'] s := fun closes =>
  h ((inert_closing.mem_translate foreign_ampersand).1 closes)

theorem translate_opening (p r : Text) :
    translate ['&'] (p ++ '[' :: '@' :: r) =
      translate ['&'] p ++ '[' :: '@' :: translate ['&'] r := by
  have behind : translate ['&'] ('@' :: r) = '@' :: translate ['&'] r :=
    inert_at.translate_append_cons foreign_ampersand [] r
  rw [inert_bracket.translate_append_cons foreign_ampersand, behind]

theorem translate_closing (b r : Text) :
    translate ['&'] (b ++ ']' :: r) = translate ['&'] b ++ ']' :: translate ['&'] r :=
  inert_closing.translate_append_cons foreign_ampersand b r

end Delimiters

/-- Reading a coloured text gives the coloured parts of the text. The recursion is on the length of
the text: reading goes on behind the first marker. -/
theorem readPlain_translate (offset : Nat) (text : Text) :
    readPlain offset (translate ['&'] text) = (readPlain offset text).map (translate ['&']) := by
  obtain ⟨p, hp, rfl | ⟨r, rfl⟩⟩ := exists_plain text
  · rw [readPlain_ends hp, readPlain_ends (unopened_translate hp), map]
  · have hp' := unopened_translate hp
    have length (t : Text) : (translate ['&'] t).length = t.length :=
      Color.length_translate foreign_ampersand t
    rw [translate_opening]
    obtain ⟨b, hb, hclose, rfl | ⟨r, rfl⟩ | ⟨r, rfl⟩⟩ := exists_body r
    · rw [readPlain_opening hp, readPlain_opening hp', readBody_unterminated hb hclose,
        readBody_unterminated (unopened_translate hb) (unclosed_translate hclose)]
      simp [ofOpened, prepend, map]
    · rw [translate_opening, readPlain_opening hp, readPlain_opening hp', readBody_nested hb hclose,
        readBody_nested (unopened_translate hb) (unclosed_translate hclose), length, length]
      simp [ofOpened, prepend, map]
    · rw [translate_closing, readPlain_closing hp hb hclose,
        readPlain_closing hp' (unopened_translate hb) (unclosed_translate hclose), length, length,
        readPlain_translate _ r, map]
termination_by text.length
decreasing_by
  subst_vars
  simp only [List.length_append, List.length_cons]
  omega

/-- A character that stays what it is and that no known operator has makes an operator unknown. -/
theorem arity?_of_mem {x : Char} (h : Text.IsBreak x)
    (strange : x ∉ "command".toList ∧ x ∉ "hover".toList) {operator : Text} (hx : x ∈ operator) :
    arity? (Text.lower operator) = none := by
  obtain ⟨p, r, rfl⟩ := List.append_of_mem hx
  have kept : x ∈ Text.lower (p ++ x :: r) := by
    rw [h.lower_append]
    exact List.mem_append_right _ List.mem_cons_self
  apply if_neg
  rintro (same | same)
  · exact strange.1 (same ▸ kept)
  · exact strange.2 (same ▸ kept)

/-- Colouring makes no operator known and none unknown. -/
theorem arity?_translate (operator : Text) :
    arity? (Text.lower (translate ['&'] operator)) = arity? (Text.lower operator) := by
  by_cases signed : '&' ∈ operator
  · have ampersand : Text.IsBreak '&' := ⟨⟨by decide, by decide⟩, by decide, by decide⟩
    have final : Text.IsBreak Color.sign :=
      ⟨⟨by decide, by decide +kernel⟩, by decide +kernel, by decide +kernel⟩
    rw [arity?_of_mem ampersand (by decide) signed]
    -- either sign that may now stand there is in no known operator
    rcases Color.mem_translate_of_mem foreign_ampersand signed with kept | replaced
    · exact arity?_of_mem ampersand (by decide) kept
    · exact arity?_of_mem final (by decide) replaced
  · rw [Color.translate_of_not_mem signed]

/-- The body of a marker is read with the same operator and the coloured arguments. -/
theorem interpret_translate (body : Text) :
    (interpret (translate ['&'] body)).toOption =
      (interpret body).toOption.map (Segment.map (translate ['&'])) := by
  have trim (s : Text) : Text.trim (translate ['&'] s) = translate ['&'] (Text.trim s) :=
    Color.trim_translate foreign_ampersand (fun c => inert_of_isBlank) s
  have operator (s : Text) : arity? (Text.lower (Text.trim (translate ['&'] s))) =
      arity? (Text.lower (Text.trim s)) := by
    rw [trim, arity?_translate]
  unfold interpret
  rw [inert_colon.splitOn_translate foreign_ampersand]
  match Text.splitOn ':' body with
  | [] => rfl
  | [_] => rfl
  | op :: first :: others =>
    simp only [List.map_cons, operator]
    cases arity? (Text.lower (Text.trim op)) with
    | none => rfl
    | some n =>
      match others with
      | [] => rfl
      | [text] => simp [trim, Segment.map, Except.toOption]
      | _ :: _ :: _ => rfl

theorem plainSegment_translate (plain : Text) :
    plainSegment (translate ['&'] plain) =
      (plainSegment plain).map (Segment.map (translate ['&'])) := by
  cases plain with
  | nil => rfl
  | cons c rest =>
    have length := Color.length_translate foreign_ampersand (c :: rest)
    cases colored : translate ['&'] (c :: rest) with
    | nil => simp [colored] at length
    | cons d others => simp [plainSegment, Segment.map, colored]

/-- A marker has segments if its body is read and the rest has segments. -/
theorem toOption_segments_marker (plain body : Text) (rest : Markup) :
    (marker plain body rest).segments.toOption = (interpret body).toOption.bind fun s =>
      rest.segments.toOption.map fun others => plainSegment plain ++ s :: others := by
  cases read : interpret body with
  | error fault =>
    rw [segments_of_faulty read]
    rfl
  | ok s =>
    rw [segments_of_read read]
    cases rest.segments <;> rfl

/-- The segments of coloured parts are the coloured segments of the parts. -/
theorem segments_translate (m : Markup) :
    (m.map (translate ['&'])).segments.toOption =
      m.segments.toOption.map (List.map (Segment.map (translate ['&']))) := by
  induction m with
  | ends plain => simp [map, segments, plainSegment_translate, Except.toOption]
  | unterminated plain => rfl
  | nested plain offset => rfl
  | marker plain body rest ih =>
    rw [map, toOption_segments_marker, toOption_segments_marker, interpret_translate,
      plainSegment_translate, ih]
    cases (interpret body).toOption with
    | none => rfl
    | some s =>
      cases rest.segments.toOption with
      | none => rfl
      | some others => simp

end Markup

/-- A line can be coloured before it is segmented or afterwards: one succeeds exactly if the other
does, and the segments of the coloured line are those of the line, in order, with the colours of
every text and every payload translated on their own. -/
theorem segment_translate (text : Text) (segs : List Segment) :
    segment (translate Color.alternateSign text) = .ok segs ↔
      ∃ plain, segment text = .ok plain ∧
        segs = plain.map (Segment.map (translate Color.alternateSign)) := by
  have same : (segment (translate ['&'] text)).toOption =
      (segment text).toOption.map (List.map (Segment.map (translate ['&']))) := by
    rw [segment, segment, Markup.read, Markup.readPlain_translate, Markup.segments_translate]
    rfl
  have accepted {line : Text} {found : List Segment} :
      segment line = .ok found ↔ (segment line).toOption = some found := by
    cases segment line <;> simp [Except.toOption]
  rw [accepted, Color.alternateSign, same, Option.map_eq_some_iff]
  simp only [accepted, eq_comm]

/-- A line with colours before its marker, among the blanks in it and behind it. The last ampersand
stands before no code. -/
theorem segment_translate_hover :
    segment (translate Color.alternateSign "&A[@ Hover :&Btip : &cgo ]&".toList) =
      .ok [⟨"§a".toList, none⟩, ⟨"§cgo".toList, some ⟨.runCommand, "§btip".toList⟩⟩,
        ⟨['&'], none⟩] := by
  have plain : segment "&A[@ Hover :&Btip : &cgo ]&".toList =
      .ok [⟨"&A".toList, none⟩, ⟨"&cgo".toList, some ⟨.runCommand, "&Btip".toList⟩⟩,
        ⟨['&'], none⟩] := by
    decide +kernel
  exact (segment_translate _ _).2 ⟨_, plain, by decide +kernel⟩

end Phrasebook
