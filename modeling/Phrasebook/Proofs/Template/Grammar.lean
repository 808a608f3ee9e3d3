import Mathlib.Logic.ExistsUnique
import Phrasebook.Template

/-!
# The grammar of templates

A template is written as leads with keys between them, and it may end with an opening that is
never closed. What stands before an opening has no opening in it and does not end with half of
one, so that braces in a row are taken from the left; for keys and closings it is the same.
Every text is written by exactly one template of this kind, and reading finds it
(`existsUnique_wellFormed`).

One half of this is that reading follows a template that is written down (`read_source`, an
induction on the template), the other that what is read is well formed (`wellFormed_read`, an
induction along the reader).
-/

namespace Phrasebook

namespace Template

/-- The start of a hole. -/
def opening : Text := ['{', '{']

/-- The end of a hole. -/
def closing : Text := ['}', '}']

/-- Two of a brace do not stand in a text, nor does one at its end: the two that follow the
text are the first that there are. -/
structure Unpaired (brace : Char) (p : Text) : Prop where
  inside : ¬ [brace, brace] <:+: p
  last : p.getLast? ≠ some brace

/-- No lead has an opening, no key a closing, and none ends with half of what follows it. What
stands behind an opening that is never closed has no closing. -/
def WellFormed : Template → Prop
  | ends lead => ¬ opening <:+: lead
  | unclosed lead tail => Unpaired '{' lead ∧ ¬ closing <:+: tail
  | hole lead key rest => Unpaired '{' lead ∧ Unpaired '}' key ∧ rest.WellFormed

/-- An opened key followed by a well-formed template, or a tail without a closing. -/
def Opened.WellFormed : Opened → Prop
  | closed key rest => Unpaired '}' key ∧ rest.WellFormed
  | unclosed tail => ¬ closing <:+: tail

/-- A text before the first lead. -/
def prepend (p : Text) : Template → Template
  | ends lead => ends (p ++ lead)
  | unclosed lead tail => unclosed (p ++ lead) tail
  | hole lead key rest => hole (p ++ lead) key rest

/-- A text before the key. -/
def Opened.prepend (p : Text) : Opened → Opened
  | closed key rest => closed (p ++ key) rest
  | unclosed tail => unclosed (p ++ tail)

theorem prepend_nil (t : Template) : t.prepend [] = t := by cases t <;> rfl

theorem prepend_cons (c : Char) (p : Text) (t : Template) :
    t.prepend (c :: p) = consLead c (t.prepend p) := by cases t <;> rfl

theorem Opened.prepend_nil (o : Opened) : o.prepend [] = o := by cases o <;> rfl

theorem Opened.prepend_cons (c : Char) (p : Text) (o : Opened) :
    o.prepend (c :: p) = (o.prepend p).consKey c := by cases o <;> rfl

section Braces

variable {brace c : Char} {p tail : Text}

/-- Two braces do not meet at the front of a text that starts with a stretch without two of
them, unless the stretch ends with one and the rest starts with one. -/
theorem not_meets (hp : ¬ [brace, brace] <:+: c :: p)
    (hend : (c :: p).getLast? ≠ some brace ∨ tail.head? ≠ some brace) :
    ∀ r, c = brace → p ++ tail = brace :: r → False := by
  rintro r rfl h
  cases p with
  | nil =>
    rw [List.nil_append] at h
    rcases hend with hend | hend
    · exact hend rfl
    · exact hend (by rw [h]; rfl)
  | cons d p =>
    obtain rfl : d = c := (List.cons.inj h).1
    exact hp (List.prefix_append [d, d] p).isInfix

theorem getLast?_uncons (h : (c :: p).getLast? ≠ some brace ∨ tail.head? ≠ some brace) :
    p.getLast? ≠ some brace ∨ tail.head? ≠ some brace := by
  cases p with
  | nil => exact .inl (by simp)
  | cons d p => rwa [List.getLast?_cons_cons] at h

theorem not_infix_uncons (h : ¬ [brace, brace] <:+: c :: p) : ¬ [brace, brace] <:+: p :=
  fun inside => h (inside.trans (List.suffix_cons c p).isInfix)

/-- A character may go before a stretch unless it makes two of a brace with the first one. -/
theorem not_infix_cons (h : ¬ [brace, brace] <:+: p) (hc : c = brace → p.head? ≠ some brace) :
    ¬ [brace, brace] <:+: c :: p := by
  rw [List.infix_cons_iff]
  rintro (front | inside)
  · obtain ⟨same, r, rfl⟩ := List.cons_prefix_cons.1 front
    exact hc same.symm rfl
  · exact h inside

theorem Unpaired.nil (brace : Char) : Unpaired brace [] := ⟨by simp, by simp⟩

theorem Unpaired.of_not_mem (h : brace ∉ p) : Unpaired brace p where
  inside pair := h (pair.subset List.mem_cons_self)
  last same := h (List.mem_of_getLast? same)

theorem Unpaired.cons (h : Unpaired brace p)
    (hc : c = brace → (p ++ brace :: tail).head? ≠ some brace) : Unpaired brace (c :: p) := by
  cases p with
  | nil =>
    have other : c ≠ brace := fun same => hc same rfl
    exact ⟨not_infix_cons h.inside fun same => absurd same other, by simpa using other⟩
  | cons d p =>
    exact ⟨not_infix_cons h.inside hc, by rw [List.getLast?_cons_cons]; exact h.last⟩

end Braces

section Reading

variable {p tail : Text}

/-- The reader passes a stretch without openings. -/
theorem read_append (hp : ¬ opening <:+: p)
    (hend : p.getLast? ≠ some '{' ∨ tail.head? ≠ some '{') :
    read (p ++ tail) = (read tail).prepend p := by
  induction p with
  | nil => exact (prepend_nil _).symm
  | cons c p ih =>
    rw [List.cons_append, read.eq_3 _ _ (not_meets hp hend),
      ih (not_infix_uncons hp) (getLast?_uncons hend), prepend_cons]

/-- Behind an opening the reader passes a stretch without closings. -/
theorem readKey_append (hp : ¬ closing <:+: p)
    (hend : p.getLast? ≠ some '}' ∨ tail.head? ≠ some '}') :
    readKey (p ++ tail) = (readKey tail).prepend p := by
  induction p with
  | nil => exact (Opened.prepend_nil _).symm
  | cons c p ih =>
    rw [List.cons_append, readKey.eq_3 _ _ (not_meets hp hend),
      ih (not_infix_uncons hp) (getLast?_uncons hend), Opened.prepend_cons]

theorem read_unopened (hp : ¬ opening <:+: p) : read p = ends p := by
  have passed : read (p ++ []) = (read []).prepend p := read_append hp (.inr (by simp))
  rw [List.append_nil, read.eq_1, prepend, List.append_nil] at passed
  exact passed

theorem readKey_unclosed (hp : ¬ closing <:+: p) : readKey p = .unclosed p := by
  have passed : readKey (p ++ []) = (readKey []).prepend p := readKey_append hp (.inr (by simp))
  rw [List.append_nil, readKey.eq_1, Opened.prepend, List.append_nil] at passed
  exact passed

theorem read_opening (hp : Unpaired '{' p) (tail : Text) :
    read (p ++ '{' :: '{' :: tail) = (ofOpened (readKey tail)).prepend p := by
  rw [read_append hp.inside (.inl hp.last), read.eq_2]

theorem readKey_closing (hp : Unpaired '}' p) (tail : Text) :
    readKey (p ++ '}' :: '}' :: tail) = .closed p (read tail) := by
  rw [readKey_append hp.inside (.inl hp.last), readKey.eq_2, Opened.prepend, List.append_nil]

end Reading

/-- A well-formed template that is written down is read back. -/
theorem read_source {t : Template} (h : t.WellFormed) : read t.source = t := by
  induction t with
  | ends lead => exact read_unopened h
  | unclosed lead tail =>
    rw [source, read_opening h.1, readKey_unclosed h.2, ofOpened, prepend, List.append_nil]
  | hole lead key rest ih =>
    rw [source, List.append_assoc, List.cons_append, List.cons_append, read_opening h.1,
      readKey_closing h.2.1, ih h.2.2, ofOpened, prepend, List.append_nil]

/-- A text that does not close its hole is read back from between braces. -/
theorem read_hole {raw : Text} (h : Unpaired '}' raw) :
    read (opening ++ raw ++ closing) = hole [] raw (ends []) := by
  have wellFormed : (hole [] raw (ends [])).WellFormed :=
    ⟨.nil '{', h, (Unpaired.nil '{').inside⟩
  simpa [source, opening, closing] using read_source wellFormed

/-- A character may go before a well-formed template unless it makes an opening with the
first one. -/
theorem WellFormed.consLead {t : Template} (h : t.WellFormed) {c : Char}
    (hc : c = '{' → t.source.head? ≠ some '{') : (t.consLead c).WellFormed := by
  cases t with
  | ends lead => exact not_infix_cons h hc
  | unclosed lead tail => exact ⟨h.1.cons hc, h.2⟩
  | hole lead key rest =>
    rw [source, List.append_assoc] at hc
    exact ⟨h.1.cons hc, h.2⟩

theorem Opened.WellFormed.consKey {o : Opened} (h : o.WellFormed) {c : Char}
    (hc : c = '}' → o.source.head? ≠ some '}') : (o.consKey c).WellFormed := by
  cases o with
  | closed key rest => exact ⟨h.1.cons hc, h.2⟩
  | unclosed tail => exact not_infix_cons h hc

theorem Opened.WellFormed.ofOpened {o : Opened} (h : o.WellFormed) : (ofOpened o).WellFormed := by
  cases o with
  | closed key rest => exact ⟨.nil '{', h⟩
  | unclosed tail => exact ⟨.nil '{', h⟩

theorem head?_ne_of_not_cons {c : Char} {rest : Text} (h : ∀ r, rest = c :: r → False) :
    rest.head? ≠ some c := by
  intro first
  obtain ⟨r, rfl⟩ := List.head?_eq_some_iff.1 first
  exact h r rfl

mutual

/-- What is read is well formed. -/
theorem wellFormed_read (s : Text) : (read s).WellFormed := by
  unfold read
  split
  · exact (Unpaired.nil '{').inside
  · next rest => exact (wellFormed_readKey rest).ofOpened
  · next c rest unopened =>
    refine (wellFormed_read rest).consLead fun brace => ?_
    rw [Template.source_read]
    exact head?_ne_of_not_cons fun r => unopened r brace

theorem wellFormed_readKey (s : Text) : (readKey s).WellFormed := by
  unfold readKey
  split
  · exact (Unpaired.nil '}').inside
  · next rest => exact ⟨.nil '}', wellFormed_read rest⟩
  · next c rest unclosed =>
    refine (wellFormed_readKey rest).consKey fun brace => ?_
    rw [source_readKey]
    exact head?_ne_of_not_cons fun r => unclosed r brace

end

/-- Every text is written by exactly one well-formed template. -/
theorem existsUnique_wellFormed (s : Text) : ∃! t : Template, t.WellFormed ∧ t.source = s := by
  refine ⟨read s, ⟨wellFormed_read s, Template.source_read s⟩, ?_⟩
  rintro t ⟨h, rfl⟩
  exact (read_source h).symm

end Template

end Phrasebook
