import Phrasebook.Text.Class

/-!
# Pieces of a text are stretches of it

Trimming and splitting give back stretches of the text they were given, and a pair of
characters that a text does not have is in none of its stretches. So a piece between two
occurrences of a pair does not have the pair, however it is trimmed and split again. Pieces
between single separators are exactly the stretches without one.
-/

namespace Phrasebook.Text

/-- A text has a pair exactly where the two characters are a stretch of it. -/
theorem hasPair_iff {a b : Char} {s : Text} : hasPair a b s = true ↔ [a, b] <:+: s := by
  induction s with
  | nil => simp [hasPair]
  | cons c r ih =>
    cases r with
    | nil =>
      simp only [hasPair, Bool.false_eq_true, false_iff]
      intro h
      simpa using h.length_le
    | cons d r =>
      rw [List.infix_cons_iff, ← ih]
      simp only [hasPair, Bool.or_eq_true, Bool.and_eq_true, beq_iff_eq]
      refine or_congr_left ⟨?_, fun h => ?_⟩
      · rintro ⟨rfl, rfl⟩
        exact List.prefix_append [c, d] r
      · obtain ⟨t, ht⟩ := h
        simp only [List.cons_append, List.nil_append, List.cons.injEq] at ht
        exact ⟨ht.1.symm, ht.2.1.symm⟩

/-- A stretch of a text has no pair that the text does not have. -/
theorem hasPair_of_infix {a b : Char} {p s : Text} (h : p <:+: s) (hs : hasPair a b s = false) :
    hasPair a b p = false := by
  rw [← Bool.not_eq_true, hasPair_iff] at hs ⊢
  exact fun hp => hs (hp.trans h)

theorem trimBy_infix (p : Char → Bool) (s : Text) : trimBy p s <:+: s := by
  have front : s.dropWhile p <:+ s := List.dropWhile_suffix p
  have back : ((s.dropWhile p).reverse.dropWhile p).reverse <+: s.dropWhile p := by
    rw [← List.reverse_suffix, List.reverse_reverse]
    exact List.dropWhile_suffix p
  exact back.isInfix.trans front.isInfix

theorem trim_infix (s : Text) : trim s <:+: s := trimBy_infix isBlank s

/-- The first piece around a pair stands at the front of the text, all are stretches of it,
and none of them has the pair. -/
theorem splitPair_spec (a b : Char) (s : Text) :
    ∃ p ps, splitPair a b s = p :: ps ∧ p <+: s ∧ (∀ q ∈ ps, q <:+: s) ∧
      ∀ q ∈ p :: ps, hasPair a b q = false := by
  fun_induction splitPair a b s with
  | case1 => exact ⟨[], [], rfl, List.prefix_refl _, by simp, by simp [hasPair]⟩
  | case2 c => exact ⟨[c], [], rfl, List.prefix_refl _, by simp, by simp [hasPair]⟩
  | case3 c d r hpair ih =>
    obtain ⟨p, ps, hsplit, hp, hps, hnone⟩ := ih
    refine ⟨[], splitPair a b r, rfl, List.nil_prefix, fun q hq => ?_, ?_⟩
    · rw [hsplit] at hq
      rcases List.mem_cons.1 hq with rfl | hq
      · exact (hp.isInfix.trans (List.suffix_append [c, d] r).isInfix)
      · exact (hps q hq).trans (List.suffix_append [c, d] r).isInfix
    · rw [hsplit]
      exact List.forall_mem_cons.2 ⟨rfl, hnone⟩
  | case4 c d r hpair ih =>
    obtain ⟨p, ps, hsplit, hp, hps, hnone⟩ := ih
    refine ⟨c :: p, ps, by rw [hsplit]; rfl, List.prefix_cons_iff.2 (.inr ⟨p, rfl, hp⟩),
      fun q hq => (hps q hq).trans (List.suffix_cons c _).isInfix, ?_⟩
    refine List.forall_mem_cons.2 ⟨?_, fun q hq => hnone q (List.mem_cons_of_mem _ hq)⟩
    cases p with
    | nil => rfl
    | cons e p =>
      -- the first piece of the rest starts with its first character
      obtain rfl : e = d := (List.cons_prefix_cons.1 hp).1
      simp only [hasPair, Bool.or_eq_false_iff, Bool.and_eq_false_iff, beq_eq_false_iff_ne]
      exact ⟨Decidable.not_and_iff_or_not.1 hpair, hnone _ List.mem_cons_self⟩

theorem infix_of_mem_splitPair {a b : Char} {s q : Text} (h : q ∈ splitPair a b s) : q <:+: s := by
  obtain ⟨p, ps, hsplit, hp, hps, -⟩ := splitPair_spec a b s
  rw [hsplit] at h
  rcases List.mem_cons.1 h with rfl | h
  · exact hp.isInfix
  · exact hps q h

/-- No piece around a pair has the pair. -/
theorem hasPair_of_mem_splitPair {a b : Char} {s q : Text} (h : q ∈ splitPair a b s) :
    hasPair a b q = false := by
  obtain ⟨p, ps, hsplit, -, -, hnone⟩ := splitPair_spec a b s
  exact hnone q (hsplit ▸ h)

/-- The first piece around some separators stands at the front of the text, and all are
stretches of it. -/
theorem splitAtMost_spec (sep : Char) (n : Nat) (s : Text) :
    ∃ p ps, splitAtMost sep n s = p :: ps ∧ p <+: s ∧ ∀ q ∈ ps, q <:+: s := by
  fun_induction splitAtMost sep n s with
  | case1 => exact ⟨[], [], rfl, List.prefix_refl _, by simp⟩
  | case2 s => exact ⟨s, [], rfl, List.prefix_refl _, by simp⟩
  | case3 n r ih =>
    obtain ⟨p, ps, hsplit, hp, hps⟩ := ih
    refine ⟨[], splitAtMost sep n r, rfl, List.nil_prefix, fun q hq => ?_⟩
    have rest : r <:+: sep :: r := (List.suffix_cons sep r).isInfix
    rw [hsplit] at hq
    rcases List.mem_cons.1 hq with rfl | hq
    · exact hp.isInfix.trans rest
    · exact (hps q hq).trans rest
  | case4 n c r hc ih =>
    obtain ⟨p, ps, hsplit, hp, hps⟩ := ih
    refine ⟨c :: p, ps, by rw [hsplit]; rfl, List.prefix_cons_iff.2 (.inr ⟨p, rfl, hp⟩), ?_⟩
    exact fun q hq => (hps q hq).trans (List.suffix_cons c r).isInfix

theorem infix_of_mem_splitAtMost {sep : Char} {n : Nat} {s q : Text}
    (h : q ∈ splitAtMost sep n s) : q <:+: s := by
  obtain ⟨p, ps, hsplit, hp, hps⟩ := splitAtMost_spec sep n s
  rw [hsplit] at h
  rcases List.mem_cons.1 h with rfl | h
  · exact hp.isInfix
  · exact hps q h

/-- A text falls apart where a property first holds of what is left, or not at all. -/
theorem exists_first_cut (P : Text → Prop) (s : Text) :
    ∃ p tail, s = p ++ tail ∧ (tail = [] ∨ P tail) ∧
      ∀ q r, p = q ++ r → r ≠ [] → ¬ P (r ++ tail) := by
  induction s with
  | nil => exact ⟨[], [], rfl, .inl rfl, fun q r h hr => by simp_all⟩
  | cons c s ih =>
    by_cases here : P (c :: s)
    · exact ⟨[], c :: s, rfl, .inr here, fun q r h hr => by simp_all⟩
    · obtain ⟨p, tail, rfl, hstop, hfirst⟩ := ih
      refine ⟨c :: p, tail, rfl, hstop, fun q r h hr => ?_⟩
      rcases List.cons_eq_append_iff.1 h with ⟨-, rfl⟩ | ⟨q', -, rfl⟩
      · exact here
      · exact hfirst q' r rfl hr

/-- A text without the separator is one piece. -/
theorem splitOn_of_not_mem {sep : Char} {s : Text} (h : sep ∉ s) : splitOn sep s = [s] := by
  induction s with
  | nil => rfl
  | cons c s ih =>
    obtain ⟨hc, hs⟩ := List.ne_and_not_mem_of_not_mem_cons h
    rw [splitOn, if_neg (Ne.symm hc), ih hs, consHead]

/-- The first piece ends at the first separator. -/
theorem splitOn_append {sep : Char} {p : Text} (h : sep ∉ p) (s : Text) :
    splitOn sep (p ++ sep :: s) = p :: splitOn sep s := by
  induction p with
  | nil => simp [splitOn]
  | cons c p ih =>
    obtain ⟨hc, hp⟩ := List.ne_and_not_mem_of_not_mem_cons h
    rw [List.cons_append, splitOn, if_neg (Ne.symm hc), ih hp, consHead]

theorem splitAtMost_zero (sep : Char) (s : Text) : splitAtMost sep 0 s = [s] := by
  cases s <;> rfl

/-- A text without the separator is one piece, whatever the limit. -/
theorem splitAtMost_of_not_mem {sep : Char} {s : Text} (h : sep ∉ s) (n : Nat) :
    splitAtMost sep n s = [s] := by
  cases n with
  | zero => exact splitAtMost_zero sep s
  | succ n =>
    induction s with
    | nil => rfl
    | cons c s ih =>
      obtain ⟨hc, hs⟩ := List.ne_and_not_mem_of_not_mem_cons h
      rw [splitAtMost, if_neg (Ne.symm hc), ih hs, consHead]

/-- Below the limit the first piece ends at the first separator. -/
theorem splitAtMost_append {sep : Char} {p : Text} (h : sep ∉ p) (n : Nat) (s : Text) :
    splitAtMost sep (n + 1) (p ++ sep :: s) = p :: splitAtMost sep n s := by
  induction p with
  | nil => simp [splitAtMost]
  | cons c p ih =>
    obtain ⟨hc, hp⟩ := List.ne_and_not_mem_of_not_mem_cons h
    rw [List.cons_append, splitAtMost, if_neg (Ne.symm hc), ih hp, consHead]

/-- There is one piece more than there are separators. -/
theorem length_splitOn (sep : Char) (s : Text) :
    (splitOn sep s).length = s.count sep + 1 := by
  induction s with
  | nil => rfl
  | cons c s ih =>
    rw [splitOn]
    split
    · next same => rw [List.length_cons, ih, same, List.count_cons_self]
    · next other =>
      rw [List.count_cons_of_ne other, ← ih]
      cases pieces : splitOn sep s with
      | nil => exact absurd pieces (splitOn_ne_nil sep s)
      | cons p ps => rfl

/-- There is one piece more than there are separators, up to the limit. -/
theorem length_splitAtMost (sep : Char) (n : Nat) (s : Text) :
    (splitAtMost sep n s).length = min n (s.count sep) + 1 := by
  fun_induction splitAtMost sep n s with
  | case1 n => simp
  | case2 s => simp
  | case3 n r ih =>
    rw [List.length_cons, ih, List.count_cons_self]
    omega
  | case4 n c r other ih =>
    obtain ⟨p, ps, pieces, -⟩ := splitAtMost_spec sep (n + 1) r
    rw [List.count_cons_of_ne other, ← ih, pieces]
    rfl

/-- The first of several pieces ends at the first separator. -/
theorem head?_splitAtMost (sep : Char) (n : Nat) (s : Text) :
    (splitAtMost sep (n + 1) s).head? = some (s.takeWhile (· != sep)) := by
  induction s with
  | nil => rfl
  | cons c r ih =>
    rw [splitAtMost]
    split
    · next same => simp [same]
    · next other =>
      obtain ⟨p, ps, pieces, -⟩ := splitAtMost_spec sep (n + 1) r
      rw [pieces] at ih ⊢
      rw [List.takeWhile_cons_of_pos (by simpa using other), ← Option.some.inj ih]
      rfl

/-- No piece has the separator. -/
theorem not_mem_of_mem_splitOn {sep : Char} {s q : Text} (h : q ∈ splitOn sep s) : sep ∉ q := by
  induction s generalizing q with
  | nil => simp_all [splitOn]
  | cons c s ih =>
    rw [splitOn] at h
    split at h
    · rcases List.mem_cons.1 h with rfl | h
      · exact List.not_mem_nil
      · exact ih h
    · next hc =>
      cases hs : splitOn sep s with
      | nil => exact absurd hs (splitOn_ne_nil sep s)
      | cons p ps =>
        rw [hs, consHead] at h
        rw [hs] at ih
        rcases List.mem_cons.1 h with rfl | h
        · exact List.not_mem_cons_of_ne_of_not_mem (Ne.symm hc) (ih List.mem_cons_self)
        · exact ih (List.mem_cons_of_mem p h)

end Phrasebook.Text
