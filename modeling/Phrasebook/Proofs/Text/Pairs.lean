import Phrasebook.Proofs.Text.Trim

/-!
# Splitting at a pair

The pieces around a pair are found from the left, so a text can be split on both sides of one
occurrence on its own, as long as the occurrence is met: the character before it must not be the
first of the pair (`splitPair_append`). White space at the ends of a text stays at the ends of
its first and last pieces. Pieces that are trimmed are therefore the same whether the text was
trimmed or not (`map_trim_splitPair_trim`).
-/

namespace Phrasebook.Text

variable {a b : Char}

/-- A text without the pair is one piece. -/
theorem splitPair_of_not_hasPair {s : Text} (h : hasPair a b s = false) :
    splitPair a b s = [s] := by
  fun_induction splitPair a b s with
  | case1 => rfl
  | case2 c => rfl
  | case3 c d r hpair ih =>
    obtain ⟨rfl, rfl⟩ := hpair
    simp [hasPair] at h
  | case4 c d r hpair ih =>
    simp only [hasPair, Bool.or_eq_false_iff] at h
    rw [ih h.2]
    rfl

theorem length_consHead {c : Char} {ps : List Text} (h : ps ≠ []) :
    (consHead c ps).length = ps.length := by
  cases ps with
  | nil => exact absurd rfl h
  | cons p ps => rfl

/-- A text has the pair exactly if it has more than one piece. -/
theorem hasPair_iff_length {s : Text} :
    hasPair a b s = true ↔ 1 < (splitPair a b s).length := by
  fun_induction splitPair a b s with
  | case1 => simp [hasPair]
  | case2 c => simp [hasPair]
  | case3 c d r hpair ih =>
    have more : 0 < (splitPair a b r).length := List.length_pos_iff.2 (splitPair_ne_nil a b r)
    simp [hasPair, hpair, more]
  | case4 c d r hpair ih =>
    rw [length_consHead (splitPair_ne_nil a b (d :: r)), ← ih]
    simp [hasPair, hpair]

theorem hasPair_cons_self (a b : Char) (s : Text) :
    hasPair a b (a :: s) = (s.head? == some b || hasPair a b s) := by
  cases s with
  | nil => rfl
  | cons d r => simp [hasPair]

/-- Characters that do not begin the pair may stand before a text. -/
theorem hasPair_append_of_not_mem {s : Text} (h : a ∉ s) (t : Text) :
    hasPair a b (s ++ t) = hasPair a b t := by
  induction s with
  | nil => rfl
  | cons c s ih =>
    obtain ⟨other, others⟩ := List.ne_and_not_mem_of_not_mem_cons h
    rw [List.cons_append, ← ih others]
    cases s ++ t with
    | nil => rfl
    | cons d r => simp [hasPair, Ne.symm other]

/-- A text is split on both sides of a place that no occurrence lies across. -/
theorem splitPair_append_apart {s t : Text}
    (h : ¬ (s.getLast? = some a ∧ t.head? = some b)) :
    ∃ ps p q qs, splitPair a b s = ps ++ [p] ∧ splitPair a b t = q :: qs ∧
      splitPair a b (s ++ t) = ps ++ (p ++ q) :: qs := by
  obtain ⟨q, qs, split⟩ := List.exists_cons_of_ne_nil (splitPair_ne_nil a b t)
  fun_induction splitPair a b s with
  | case1 => exact ⟨[], [], q, qs, rfl, split, split⟩
  | case2 c =>
    refine ⟨[], [c], q, qs, rfl, split, ?_⟩
    cases t with
    | nil =>
      obtain ⟨rfl, rfl⟩ := List.cons.inj split
      rfl
    | cons d r =>
      have apart : ¬ (c = a ∧ d = b) := by
        rintro ⟨rfl, rfl⟩
        exact h ⟨rfl, rfl⟩
      rw [List.cons_append, List.nil_append, splitPair, if_neg apart, split]
      rfl
  | case3 c d r hpair ih =>
    have rest : ¬ (r.getLast? = some a ∧ t.head? = some b) := by
      cases r with
      | nil => simp
      | cons e r => simpa using h
    obtain ⟨ps, p, q, qs, before, behind, whole⟩ := ih rest
    refine ⟨[] :: ps, p, q, qs, by rw [before]; rfl, behind, ?_⟩
    rw [List.cons_append, List.cons_append, splitPair, if_pos hpair, whole]
    rfl
  | case4 c d r hpair ih =>
    obtain ⟨ps, p, q, qs, before, behind, whole⟩ := ih (by simpa using h)
    rw [List.cons_append] at whole
    rw [List.cons_append, List.cons_append, splitPair, if_neg hpair, whole, before]
    cases ps with
    | nil => exact ⟨[], c :: p, q, qs, rfl, behind, rfl⟩
    | cons o ps => exact ⟨(c :: o) :: ps, p, q, qs, rfl, behind, rfl⟩

/-- A text has the pairs of its parts, where none lies across. -/
theorem hasPair_append_apart {s t : Text} (h : ¬ (s.getLast? = some a ∧ t.head? = some b)) :
    hasPair a b (s ++ t) = (hasPair a b s || hasPair a b t) := by
  obtain ⟨ps, p, q, qs, before, behind, whole⟩ := splitPair_append_apart h
  rw [Bool.eq_iff_iff, Bool.or_eq_true, hasPair_iff_length, hasPair_iff_length, hasPair_iff_length,
    before, behind, whole]
  simp only [List.length_append, List.length_cons, List.length_nil]
  omega

/-- The pieces on both sides of an occurrence that is met from the left. -/
theorem splitPair_append {s : Text} (h : s.getLast? ≠ some a) (t : Text) :
    splitPair a b (s ++ a :: b :: t) = splitPair a b s ++ splitPair a b t := by
  obtain ⟨ps, p, q, qs, before, behind, whole⟩ :=
    splitPair_append_apart (a := a) (b := b) (s := s) (t := a :: b :: t) fun across => h across.1
  rw [splitPair, if_pos ⟨rfl, rfl⟩] at behind
  obtain ⟨rfl, rfl⟩ := List.cons.inj behind
  rw [whole, before]
  simp

/-- A text with the pair falls apart at its first occurrence. -/
theorem exists_first_pair {s : Text} (h : hasPair a b s = true) :
    ∃ p t, s = p ++ a :: b :: t ∧ splitPair a b s = p :: splitPair a b t := by
  fun_induction splitPair a b s with
  | case1 => simp [hasPair] at h
  | case2 c => simp [hasPair] at h
  | case3 c d r hpair ih =>
    obtain ⟨rfl, rfl⟩ := hpair
    exact ⟨[], r, rfl, rfl⟩
  | case4 c d r hpair ih =>
    have later : hasPair a b (d :: r) = true := by
      simpa [hasPair, hpair] using h
    obtain ⟨p, t, whole, split⟩ := ih later
    exact ⟨c :: p, t, by rw [whole]; rfl, by rw [split]; rfl⟩

/-- A text without the first character of a pair is one piece. -/
theorem splitPair_of_not_mem {s : Text} (h : a ∉ s) : splitPair a b s = [s] := by
  apply splitPair_of_not_hasPair
  rw [Bool.eq_false_iff]
  intro pair
  exact h ((hasPair_iff.1 pair).subset List.mem_cons_self)

/-- White space before a text stands before its first piece. -/
theorem splitPair_blank_append (ha : isBlank a = false) {front : Text}
    (h : ∀ c ∈ front, isBlank c = true) (s : Text) :
    ∃ p ps, splitPair a b s = p :: ps ∧ splitPair a b (front ++ s) = (front ++ p) :: ps := by
  have absent : a ∉ front := by
    intro hmem
    simp [h a hmem] at ha
  obtain ⟨qs, q, p, ps, before, behind, whole⟩ :=
    splitPair_append_apart (a := a) (b := b) (s := front) (t := s)
      fun across => absent (List.mem_of_getLast? across.1)
  rw [splitPair_of_not_mem absent] at before
  obtain ⟨rfl, rfl⟩ : qs = [] ∧ q = front := by
    cases qs with
    | nil => exact ⟨rfl, (List.cons.inj before).1.symm⟩
    | cons o qs => simp at before
  exact ⟨p, ps, behind, whole⟩

/-- White space behind a text stands behind its last piece. -/
theorem splitPair_append_blank (ha : isBlank a = false) (hb : isBlank b = false) {back : Text}
    (h : ∀ c ∈ back, isBlank c = true) (s : Text) :
    ∃ ps p, splitPair a b s = ps ++ [p] ∧ splitPair a b (s ++ back) = ps ++ [p ++ back] := by
  have absent {c : Char} (hc : isBlank c = false) : c ∉ back := by
    intro hmem
    simp [h c hmem] at hc
  obtain ⟨ps, p, q, qs, before, behind, whole⟩ :=
    splitPair_append_apart (a := a) (b := b) (s := s) (t := back)
      fun across => absent hb (List.mem_of_head? across.2)
  rw [splitPair_of_not_mem (absent ha)] at behind
  obtain ⟨rfl, rfl⟩ := List.cons.inj behind
  exact ⟨ps, p, before, whole⟩

/-- Trimmed pieces are the same, whether the text was trimmed or not. -/
theorem map_trim_splitPair_trim (ha : isBlank a = false) (hb : isBlank b = false) (s : Text) :
    (splitPair a b (trim s)).map trim = (splitPair a b s).map trim := by
  obtain ⟨front, back, whole, blank, blank'⟩ := exists_trim s
  obtain ⟨ps, p, split, padded⟩ := splitPair_append_blank ha hb blank' (front ++ trim s)
  obtain ⟨q, qs, split', padded'⟩ := splitPair_blank_append (b := b) ha blank (trim s)
  calc (splitPair a b (trim s)).map trim
      = (splitPair a b (front ++ trim s)).map trim := by
        simp [split', padded', trim_blank_append blank]
    _ = (splitPair a b (front ++ trim s ++ back)).map trim := by
        simp only [split, padded, List.map_append, List.map_cons, trim_append_blank blank']
    _ = (splitPair a b s).map trim := by rw [← whole]

theorem hasPair_trim (ha : isBlank a = false) (hb : isBlank b = false) (s : Text) :
    hasPair a b (trim s) = hasPair a b s := by
  have pieces := congrArg List.length (map_trim_splitPair_trim ha hb s)
  simp only [List.length_map] at pieces
  rw [Bool.eq_iff_iff, hasPair_iff_length, hasPair_iff_length, pieces]

end Phrasebook.Text
