import Mathlib.Data.List.DropRight
import Mathlib.Data.List.TakeWhile
import Phrasebook.Proofs.Text.Cuts

/-!
# Trimming

A text is what trimming leaves of it, between white space (`exists_trim`), so white space at its
ends makes no difference to what is left. The two ends do not see each other across a character that
is no white space (`trim_append_cons`): trimming a text that is put together around such a character
takes the white space from the front of the first part and from the end of the last one.
-/

namespace Phrasebook.Text

/-- A text is what is left of it after trimming, between white space. -/
theorem exists_trim (s : Text) : ∃ front back, s = front ++ trim s ++ back ∧
    (∀ c ∈ front, isBlank c = true) ∧ ∀ c ∈ back, isBlank c = true := by
  let behind := s.dropWhile isBlank
  refine ⟨s.takeWhile isBlank, (behind.reverse.takeWhile isBlank).reverse, ?_, ?_, ?_⟩
  · have whole : behind = trim s ++ (behind.reverse.takeWhile isBlank).reverse := by
      rw [trim, trimBy, ← List.reverse_append, List.takeWhile_append_dropWhile,
        List.reverse_reverse]
    rw [List.append_assoc, ← whole, List.takeWhile_append_dropWhile]
  · intro c hc
    exact List.mem_takeWhile_imp hc
  · intro c hc
    exact List.mem_takeWhile_imp (List.mem_reverse.1 hc)

theorem trim_blank_append {front : Text} (h : ∀ c ∈ front, isBlank c = true) (s : Text) :
    trim (front ++ s) = trim s := by
  rw [trim, trimBy, List.dropWhile_append_of_pos h]
  rfl

theorem trim_append_blank {back : Text} (h : ∀ c ∈ back, isBlank c = true) (s : Text) :
    trim (s ++ back) = trim s := by
  have gone : back.dropWhile isBlank = [] := List.dropWhile_eq_nil_iff.2 h
  have gone' : ∀ c ∈ back.reverse, isBlank c = true := fun c hc => h c (List.mem_reverse.1 hc)
  unfold trim trimBy
  rw [List.dropWhile_append]
  split
  · next empty => rw [gone, List.isEmpty_iff.1 empty]
  · rw [List.reverse_append, List.dropWhile_append_of_pos gone']

theorem trim_trim (s : Text) : trim (trim s) = trim s := by
  obtain ⟨front, back, whole, blank, blank'⟩ := exists_trim s
  calc trim (trim s) = trim (front ++ trim s ++ back) := by
        rw [trim_append_blank blank', trim_blank_append blank]
    _ = trim s := by rw [← whole]

/-- A text is trimmed if there is no white space at its ends. -/
theorem trim_eq_self_iff {s : Text} : trim s = s ↔
    (∀ c ∈ s.head?, isBlank c = false) ∧ ∀ c ∈ s.getLast?, isBlank c = false := by
  constructor
  · intro trimmed
    have shorter (t : Text) (less : t.length < s.length) : trim t ≠ s := by
      rintro rfl
      have stretch : trim t <:+: t := trim_infix t
      exact absurd stretch.length_le less.not_ge
    constructor
    · intro c first
      obtain ⟨t, rfl⟩ := List.head?_eq_some_iff.1 first
      by_contra blank
      have passed : trim ([c] ++ t) = trim t := trim_blank_append (by simpa using blank) t
      exact shorter t (by simp) (passed.symm.trans trimmed)
    · intro c last
      obtain ⟨t, rfl⟩ := List.getLast?_eq_some_iff.1 last
      by_contra blank
      have passed : trim (t ++ [c]) = trim t := trim_append_blank (by simpa using blank) t
      exact shorter t (by simp) (passed.symm.trans trimmed)
  · rintro ⟨first, last⟩
    have kept {t : Text} (h : ∀ c ∈ t.head?, isBlank c = false) : t.dropWhile isBlank = t := by
      cases t with
      | nil => rfl
      | cons c t => exact List.dropWhile_cons_of_neg (by simp [h c rfl])
    rw [trim, trimBy, kept first, kept (by simpa using last), List.reverse_reverse]

theorem trim_dropWhile (s : Text) : trim (s.dropWhile isBlank) = trim s := by
  have gone : ∀ c ∈ s.takeWhile isBlank, isBlank c = true := fun c hc => List.mem_takeWhile_imp hc
  rw [← trim_blank_append gone, List.takeWhile_append_dropWhile]

theorem trim_rdropWhile (s : Text) : trim (s.rdropWhile isBlank) = trim s := by
  have gone : ∀ c ∈ s.rtakeWhile isBlank, isBlank c = true := fun c hc => List.mem_rtakeWhile_imp hc
  rw [← trim_append_blank gone, List.rdropWhile_append_rtakeWhile]

theorem not_mem_rdropWhile {c : Char} {s : Text} (h : c ∉ s) : c ∉ s.rdropWhile isBlank :=
  fun left => h ((List.rdropWhile_prefix isBlank s).subset left)

section Across

variable {c : Char}

theorem dropWhile_append_cons (hc : isBlank c = false) (s t : Text) :
    (s ++ c :: t).dropWhile isBlank = s.dropWhile isBlank ++ c :: t := by
  have stops : (c :: t).dropWhile isBlank = c :: t := List.dropWhile_cons_of_neg (by simp [hc])
  rw [List.dropWhile_append]
  split
  · next empty => rw [stops, List.isEmpty_iff.1 empty, List.nil_append]
  · rfl

theorem rdropWhile_append_cons (hc : isBlank c = false) (s t : Text) :
    (s ++ c :: t).rdropWhile isBlank = s ++ c :: t.rdropWhile isBlank := by
  have turned : (s ++ c :: t).reverse = t.reverse ++ c :: s.reverse := by simp
  rw [List.rdropWhile, turned, dropWhile_append_cons hc]
  simp [List.rdropWhile]

/-- The two ends of a text do not see each other across a character that is no white space. -/
theorem trim_append_cons (hc : isBlank c = false) (s t : Text) :
    trim (s ++ c :: t) = s.dropWhile isBlank ++ c :: t.rdropWhile isBlank := by
  change ((s ++ c :: t).dropWhile isBlank).rdropWhile isBlank = _
  rw [dropWhile_append_cons hc, rdropWhile_append_cons hc]

end Across

end Phrasebook.Text
