import Phrasebook.Proofs.Text.Pairs
import Phrasebook.Text.Case

/-!
# Small forms are small

The small form of a text is its own small form (`lower_lower`), although the images of a
character may be several and those of a sigma depend on what stands around it: no image is a
capital sigma, and every image is left as it is. That is a fact about the tables; a character is
an image of the tables, of ASCII, or of itself (`mem_lowerChar`).

Small forms do not distribute over appending, because of the sigmas, but they do around a character
that ends every word (`IsBreak.lower_append`).

A bar is the image of a bar only, and no image is empty. So a text has two bars in a row exactly
if its small form has (`hasPair_bar_lower`).
-/

namespace Phrasebook.Text

/-- The images of the code points that a run moves. -/
def CaseRun.images (r : CaseRun) : List Char :=
  ((List.range (r.last + 1 - r.first)).filter fun k => k % r.step == 0).map fun k =>
    Char.ofNat (r.image + k)

/-- All that the tables of the small forms move a character to. -/
def lowerImages : List Char :=
  (lowerSpecial.flatMap fun e => e.2.map Char.ofNat) ++ lowerRuns.flatMap CaseRun.images

theorem CaseRun.mem_images {r : CaseRun} {n : Nat} (h : r.coversB n = true) :
    Char.ofNat (r.apply n) ∈ r.images := by
  simp only [CaseRun.coversB, Bool.and_eq_true, decide_eq_true_eq] at h
  obtain ⟨⟨above, below⟩, stepped⟩ := h
  refine List.mem_map.2 ⟨n - r.first, List.mem_filter.2 ⟨List.mem_range.2 ?_, stepped⟩, rfl⟩
  omega

/-- A character beyond ASCII goes to an image of the tables, or stays. -/
theorem mem_caseImage {c d : Char} (h : d ∈ caseImage lowerRuns lowerSpecial c) :
    d ∈ lowerImages ∨ d = c ∧ caseImage lowerRuns lowerSpecial c = [c] := by
  unfold caseImage at h ⊢
  split at h
  · next e found =>
    left
    exact List.mem_append_left _ (List.mem_flatMap.2 ⟨e, List.mem_of_find?_eq_some found, h⟩)
  · split at h
    · next r found =>
      left
      rw [List.mem_singleton.1 h]
      apply List.mem_append_right
      exact List.mem_flatMap.2 ⟨r, List.mem_of_find?_eq_some found,
        CaseRun.mem_images (List.find?_some (p := fun r => CaseRun.coversB r c.toNat) found)⟩
    · exact .inr ⟨List.mem_singleton.1 h, rfl⟩

theorem mem_lowerChar {c d : Char} (h : d ∈ lowerChar c) :
    (c.toNat < 0x80 ∧ d = c.toLower) ∨ d ∈ lowerImages ∨ d = c ∧ lowerChar c = [c] := by
  unfold lowerChar at h ⊢
  split at h
  · next ascii => exact .inl ⟨ascii, List.mem_singleton.1 h⟩
  · next beyond =>
    rw [if_neg beyond]
    exact .inr (mem_caseImage h)

/-- A character of ASCII is the one with its number. -/
theorem forall_ascii {P : Char → Prop} (h : ∀ n < 0x80, P (Char.ofNat n)) {c : Char}
    (ascii : c.toNat < 0x80) : P c := by
  have := h c.toNat ascii
  rwa [Char.ofNat_toNat] at this

/-- A character that is its own small form wherever it stands. -/
def IsSmall (c : Char) : Prop := c ≠ 'Σ' ∧ lowerChar c = [c]

instance (c : Char) : Decidable (IsSmall c) := inferInstanceAs (Decidable (_ ∧ _))

/-- The code points that the tables move, those with an image of several characters as runs of
one. -/
def movedRuns : List CaseRun := (lowerSpecial.map fun e => ⟨e.1, e.1, 1, 0⟩) ++ lowerRuns

/-- A character that the tables do not move is small. -/
theorem isSmall_of_unmoved {c : Char} (h : ∀ r ∈ movedRuns, r.coversB c.toNat = false) :
    IsSmall c := by
  have unmoved : ∀ r ∈ lowerRuns, r.coversB c.toNat = false := fun r hr =>
    h r (List.mem_append_right _ hr)
  constructor
  · rintro rfl
    have sigma : (lowerRuns.any fun r => r.coversB 'Σ'.toNat) = true := by decide +kernel
    obtain ⟨r, hr, covers⟩ := List.any_eq_true.1 sigma
    rw [unmoved r hr] at covers
    cases covers
  · unfold lowerChar
    split
    · next ascii =>
      have capitals : CaseRun.coversB ⟨0x41, 0x5A, 1, 0x61⟩ c.toNat = false :=
        unmoved _ List.mem_cons_self
      revert capitals
      exact forall_ascii (P := fun c => CaseRun.coversB ⟨0x41, 0x5A, 1, 0x61⟩ c.toNat = false →
        [c.toLower] = [c]) (by decide +kernel) ascii
    · have special : lowerSpecial.find? (fun e => e.1 == c.toNat) = none := by
        refine List.find?_eq_none.2 fun e he same => ?_
        have single : CaseRun.coversB ⟨e.1, e.1, 1, 0⟩ c.toNat = false :=
          h _ (List.mem_append_left _ (List.mem_map_of_mem he))
        rw [← beq_iff_eq.1 same] at single
        simp [CaseRun.coversB] at single
      have run : lowerRuns.find? (fun r => r.coversB c.toNat) = none :=
        List.find?_eq_none.2 fun r hr => by simp [unmoved r hr]
      rw [caseImage, special, run]

/-- The code points that no image has: those that the tables move, and the bar. -/
def avoidedRuns : List CaseRun := ⟨0x7C, 0x7C, 1, 0⟩ :: movedRuns

/-- The images of one run lie beside another run: before it, behind it, or between its steps. -/
def CaseRun.passesB (r beside : CaseRun) : Bool :=
  Nat.blt (r.image + (r.last - r.first)) beside.first || Nat.blt beside.last r.image ||
    ((Nat.beq r.step 2 || Nat.beq r.first r.last) && Nat.beq beside.step 2 &&
      Nat.beq ((r.image + beside.first) % 2) 1)

theorem CaseRun.coversB_of_passesB {r beside : CaseRun} (h : r.passesB beside = true) {k : Nat}
    (inside : k ≤ r.last - r.first) (stepped : k % r.step = 0) :
    beside.coversB (r.image + k) = false := by
  simp only [passesB, Bool.or_eq_true, Bool.and_eq_true, Nat.blt_eq, Nat.beq_eq] at h
  rw [Bool.eq_false_iff]
  intro covers
  simp only [coversB, Bool.and_eq_true, decide_eq_true_eq, beq_iff_eq] at covers
  obtain ⟨⟨above, below⟩, step⟩ := covers
  rcases h with (before | behind) | ⟨⟨two | single, two'⟩, odd⟩
  · omega
  · omega
  · rw [two] at stepped
    rw [two'] at step
    omega
  · rw [two'] at step
    omega

/-- All images of the run are characters. -/
def CaseRun.validB (r : CaseRun) : Bool :=
  Nat.blt (r.image + (r.last - r.first)) 0xD800 ||
    (Nat.blt 0xDFFF r.image && Nat.blt (r.image + (r.last - r.first)) 0x110000)

theorem CaseRun.toNat_image {r : CaseRun} (h : r.validB = true) {k : Nat}
    (inside : k ≤ r.last - r.first) : (Char.ofNat (r.image + k)).toNat = r.image + k := by
  simp only [validB, Bool.or_eq_true, Bool.and_eq_true, Nat.blt_eq] at h
  have valid : (r.image + k).isValidChar := by
    rcases h with low | ⟨high, below⟩
    · exact .inl (by omega)
    · exact .inr ⟨by omega, by omega⟩
  rw [Char.ofNat, dif_pos valid]
  rfl

/-- What the tables move a character to, they do not move again, and it is no bar. -/
theorem coversB_of_mem_lowerImages {d : Char} (h : d ∈ lowerImages) :
    ∀ r ∈ avoidedRuns, r.coversB d.toNat = false := by
  have special : (lowerSpecial.all fun e => e.2.all fun n => avoidedRuns.all fun r =>
      !r.coversB (Char.ofNat n).toNat) = true := by decide +kernel
  have runs : (lowerRuns.all fun r => r.validB && avoidedRuns.all r.passesB) = true := by
    decide +kernel
  intro avoided havoided
  rcases List.mem_append.1 h with image | image
  · obtain ⟨e, he, image⟩ := List.mem_flatMap.1 image
    obtain ⟨n, hn, rfl⟩ := List.mem_map.1 image
    have beside := List.all_eq_true.1 (List.all_eq_true.1 special e he) n hn
    exact Bool.not_eq_true' _ ▸ List.all_eq_true.1 beside avoided havoided
  · obtain ⟨r, hr, image⟩ := List.mem_flatMap.1 image
    obtain ⟨k, hk, rfl⟩ := List.mem_map.1 image
    obtain ⟨inside, stepped⟩ := List.mem_filter.1 hk
    have inside : k ≤ r.last - r.first := by
      have := List.mem_range.1 inside
      omega
    obtain ⟨valid, passes⟩ := Bool.and_eq_true_iff.1 (List.all_eq_true.1 runs r hr)
    rw [CaseRun.toNat_image valid inside]
    exact CaseRun.coversB_of_passesB (List.all_eq_true.1 passes avoided havoided) inside
      (beq_iff_eq.1 stepped)

theorem isSmall_of_mem_lowerImages {d : Char} (h : d ∈ lowerImages) : IsSmall d :=
  isSmall_of_unmoved fun r hr => coversB_of_mem_lowerImages h r (List.mem_cons_of_mem _ hr)

theorem bar_not_mem_lowerImages : '|' ∉ lowerImages := by
  intro h
  have avoided := coversB_of_mem_lowerImages h _ List.mem_cons_self
  revert avoided
  decide

/-- Both small sigmas are small. -/
theorem isSmall_sigma (final : Bool) : IsSmall (if final then 'ς' else 'σ') := by
  have unmoved : (movedRuns.all fun r => !r.coversB 'ς'.toNat && !r.coversB 'σ'.toNat) = true := by
    decide +kernel
  apply isSmall_of_unmoved
  intro r hr
  obtain ⟨last, other⟩ := Bool.and_eq_true_iff.1 (List.all_eq_true.1 unmoved r hr)
  cases final with
  | true => simpa using last
  | false => simpa using other

theorem isSmall_of_mem_lowerChar {c d : Char} (hc : c ≠ 'Σ') (h : d ∈ lowerChar c) :
    IsSmall d := by
  rcases mem_lowerChar h with ⟨ascii, rfl⟩ | image | ⟨rfl, same⟩
  · exact forall_ascii (P := fun c => IsSmall c.toLower) (by decide +kernel) ascii
  · exact isSmall_of_mem_lowerImages image
  · exact ⟨hc, same⟩

theorem isSmall_of_mem_lowerAt {casedBefore : Bool} {c d : Char} {rest : Text}
    (h : d ∈ lowerAt casedBefore c rest) : IsSmall d := by
  unfold lowerAt at h
  split at h
  · rw [List.mem_singleton.1 h]
    exact isSmall_sigma _
  · next other => exact isSmall_of_mem_lowerChar other h

theorem isSmall_of_mem_lowerFrom {casedBefore : Bool} {s : Text} {d : Char}
    (h : d ∈ lowerFrom casedBefore s) : IsSmall d := by
  induction s generalizing casedBefore with
  | nil => exact absurd h List.not_mem_nil
  | cons c r ih =>
    rcases List.mem_append.1 h with here | later
    · exact isSmall_of_mem_lowerAt here
    · exact ih later

theorem lowerFrom_of_small {s : Text} (h : ∀ c ∈ s, IsSmall c) (casedBefore : Bool) :
    lowerFrom casedBefore s = s := by
  induction s generalizing casedBefore with
  | nil => rfl
  | cons c r ih =>
    obtain ⟨⟨other, same⟩, others⟩ := List.forall_mem_cons.1 h
    rw [lowerFrom, lowerAt, if_neg other, same, ih others]
    rfl

/-- The small form of a text is its own small form. -/
theorem lower_lower (s : Text) : lower (lower s) = lower s :=
  lowerFrom_of_small (fun _ h => isSmall_of_mem_lowerFrom h) false

section Breaks

/-- A character that stays as it is and that the rule of the final sigma takes for the end of a
word. -/
structure IsBreak (c : Char) : Prop where
  small : IsSmall c
  seen : isCaseIgnorable c = false
  uncased : isCased c = false

variable {c : Char}

theorem IsBreak.casedAhead_append (h : IsBreak c) (s r : Text) :
    casedAhead (s ++ c :: r) = casedAhead s := by
  induction s with
  | nil => simp [casedAhead, h.seen, h.uncased]
  | cons d s ih => rw [List.cons_append, casedAhead, casedAhead, ih]

theorem IsBreak.lowerFrom_append (h : IsBreak c) (casedBefore : Bool) (s r : Text) :
    lowerFrom casedBefore (s ++ c :: r) = lowerFrom casedBefore s ++ c :: lower r := by
  induction s generalizing casedBefore with
  | nil =>
    have here : lowerAt casedBefore c r = [c] := (if_neg h.small.1).trans h.small.2
    simp only [List.nil_append, lowerFrom, here, h.seen, h.uncased]
    rfl
  | cons d s ih =>
    have same : lowerAt casedBefore d (s ++ c :: r) = lowerAt casedBefore d s := by
      simp only [lowerAt, h.casedAhead_append]
    rw [List.cons_append, lowerFrom, lowerFrom, same, ih, List.append_assoc]

/-- Small forms are taken apart at a break: a sigma before it is final as at the end of a text. -/
theorem IsBreak.lower_append (h : IsBreak c) (s r : Text) :
    lower (s ++ c :: r) = lower s ++ c :: lower r := h.lowerFrom_append false s r

theorem isBreak_underscore : IsBreak '_' :=
  ⟨⟨by decide, by decide⟩, by decide, by decide⟩

end Breaks

section Bars

theorem lowerAt_ne_nil (casedBefore : Bool) (c : Char) (rest : Text) :
    lowerAt casedBefore c rest ≠ [] := by
  unfold lowerAt lowerChar caseImage
  split
  · exact List.cons_ne_nil _ _
  · split
    · exact List.cons_ne_nil _ _
    · split
      · next e found =>
        have image : ∀ e ∈ lowerSpecial, e.2.map Char.ofNat ≠ [] := by decide
        exact image e (List.mem_of_find?_eq_some found)
      · split <;> exact List.cons_ne_nil _ _

theorem bar_of_mem_lowerAt {casedBefore : Bool} {c : Char} {rest : Text}
    (h : '|' ∈ lowerAt casedBefore c rest) : c = '|' := by
  unfold lowerAt at h
  split at h
  · rw [List.mem_singleton] at h
    split at h <;> exact absurd h (by decide)
  · rcases mem_lowerChar h with ⟨ascii, same⟩ | image | ⟨rfl, -⟩
    · exact forall_ascii (P := fun c => '|' = c.toLower → c = '|') (by decide +kernel) ascii same
    · exact absurd image bar_not_mem_lowerImages
    · rfl

/-- The small form of a text starts with a bar exactly if the text does. -/
theorem head?_lowerFrom_eq_bar (casedBefore : Bool) (s : Text) :
    (lowerFrom casedBefore s).head? = some '|' ↔ s.head? = some '|' := by
  cases s with
  | nil => rfl
  | cons c r =>
    have image : (lowerAt casedBefore c r).head?.isSome :=
      List.isSome_head?.2 (lowerAt_ne_nil casedBefore c r)
    rw [lowerFrom, List.head?_append, Option.or_of_isSome image]
    constructor
    · intro h
      rw [bar_of_mem_lowerAt (List.mem_of_head? h)]
      rfl
    · intro h
      obtain rfl := Option.some.inj h
      rfl

theorem hasPair_bar_lowerFrom (casedBefore : Bool) (s : Text) :
    hasPair '|' '|' (lowerFrom casedBefore s) = hasPair '|' '|' s := by
  induction s generalizing casedBefore with
  | nil => rfl
  | cons c r ih =>
    rw [lowerFrom]
    by_cases bar : c = '|'
    · subst bar
      have image (rest : Text) : lowerAt casedBefore '|' rest = ['|'] := rfl
      have next (b : Bool) : ((lowerFrom b r).head? == some '|') = (r.head? == some '|') := by
        rw [Bool.eq_iff_iff, beq_iff_eq, beq_iff_eq, head?_lowerFrom_eq_bar]
      rw [image, List.singleton_append, hasPair_cons_self, hasPair_cons_self, ih, next]
    · have absent : '|' ∉ lowerAt casedBefore c r := fun h => bar (bar_of_mem_lowerAt h)
      have absent' : '|' ∉ [c] := fun h => bar (List.mem_singleton.1 h).symm
      rw [hasPair_append_of_not_mem absent, ih, ← hasPair_append_of_not_mem absent' r]
      rfl

/-- A text has two bars in a row exactly if its small form has. -/
theorem hasPair_bar_lower (s : Text) : hasPair '|' '|' (lower s) = hasPair '|' '|' s :=
  hasPair_bar_lowerFrom false s

end Bars

end Phrasebook.Text
