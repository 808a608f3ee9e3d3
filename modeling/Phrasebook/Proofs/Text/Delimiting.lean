import Phrasebook.Text.Json

/-!
# Written things that show where they end

A way of writing is self-delimiting if what is written can be told from whatever stands behind it:
then the things can be written one after the other and none is taken for another. Writing between
fixed texts keeps this, so does writing a list up to a stop that no item starts with, and things
written without anything between them are told apart as soon as none is written as nothing.

A text in the interchange notation is such a list: its characters are escaped, an escape can be read
back (`Json.escapedAt_escape`), and none starts with the closing quote. No character below the
space is written, so the notation of a text stays on one line.
-/

namespace Phrasebook

/-- What is written can be told from what stands behind it. -/
def SelfDelimiting {α : Type} (write : α → Text) : Prop :=
  ∀ ⦃a b : α⦄ ⦃s t : Text⦄, write a ++ s = write b ++ t → a = b ∧ s = t

namespace SelfDelimiting

variable {α β : Type} {write : α → Text}

/-- What a reader takes from the front of a text can be told from what stands behind. -/
theorem of_reader {read : Text → Option (α × Text)}
    (h : ∀ a s, read (write a ++ s) = some (a, s)) : SelfDelimiting write := by
  intro a b s t same
  have once : some (a, s) = some (b, t) := by rw [← h a s, same, h b t]
  exact Prod.mk.inj (Option.some.inj once)

/-- A fixed text in front changes nothing. -/
theorem behind (h : SelfDelimiting write) (front : Text) :
    SelfDelimiting fun a => front ++ write a := by
  intro a b s t same
  simp only [List.append_assoc] at same
  exact h (List.append_cancel_left same)

/-- A fixed text at the end changes nothing. -/
theorem before (h : SelfDelimiting write) (back : Text) :
    SelfDelimiting fun a => write a ++ back := by
  intro a b s t same
  simp only [List.append_assoc] at same
  obtain ⟨rfl, rest⟩ := h same
  exact ⟨rfl, List.append_cancel_left rest⟩

theorem comp (h : SelfDelimiting write) {f : β → α} (injective : ∀ x y, f x = f y → x = y) :
    SelfDelimiting fun x => write (f x) := by
  intro x y s t same
  obtain ⟨image, behind⟩ := h same
  exact ⟨injective x y image, behind⟩

/-- Two things are written one after the other. -/
theorem pair {next : β → Text} (h : SelfDelimiting write) (hn : SelfDelimiting next) :
    SelfDelimiting fun p : α × β => write p.1 ++ next p.2 := by
  rintro ⟨a, x⟩ ⟨b, y⟩ s t same
  simp only [List.append_assoc] at same
  obtain ⟨rfl, rest⟩ := h same
  obtain ⟨rfl, behind⟩ := hn rest
  exact ⟨rfl, behind⟩

/-- A list is written up to a stop, if no item starts with the stop. -/
theorem upTo (h : SelfDelimiting write) {stop : Text}
    (apart : ∀ a s t, write a ++ s ≠ stop ++ t) :
    SelfDelimiting fun as : List α => as.flatMap write ++ stop := by
  intro as
  induction as with
  | nil =>
    intro bs s t same
    cases bs with
    | nil => exact ⟨rfl, List.append_cancel_left same⟩
    | cons b bs =>
      simp only [List.flatMap_cons, List.append_assoc] at same
      exact absurd same.symm (apart b _ _)
  | cons a as ih =>
    intro bs s t same
    cases bs with
    | nil =>
      simp only [List.flatMap_cons, List.append_assoc] at same
      exact absurd same (apart a _ _)
    | cons b bs =>
      simp only [List.flatMap_cons, List.append_assoc] at same
      obtain ⟨rfl, others⟩ := h same
      simp only [← List.append_assoc] at others
      obtain ⟨rfl, behind⟩ := ih others
      exact ⟨rfl, behind⟩

/-- Lists are told apart by what is written of them, if nothing is written as nothing. -/
theorem flatMap_injective (h : SelfDelimiting write) (something : ∀ a, write a ≠ [])
    {as bs : List α} (same : as.flatMap write = bs.flatMap write) : as = bs := by
  induction as generalizing bs with
  | nil =>
    cases bs with
    | nil => rfl
    | cons b bs =>
      rw [List.flatMap_cons] at same
      exact absurd (List.append_eq_nil_iff.1 same.symm).1 (something b)
  | cons a as ih =>
    cases bs with
    | nil =>
      rw [List.flatMap_cons] at same
      exact absurd (List.append_eq_nil_iff.1 same).1 (something a)
    | cons b bs =>
      rw [List.flatMap_cons, List.flatMap_cons] at same
      obtain ⟨rfl, others⟩ := h same
      rw [ih others]

end SelfDelimiting

namespace Json

/-- The number that hexadecimal digits spell. -/
def hexValue (digits : Text) : Nat :=
  digits.foldl (fun n c => 16 * n + if c.isDigit then c.toNat - 48 else c.toNat - 87) 0

/-- The character that a letter behind a backslash stands for. -/
def escaped : Char → Char
  | 'n' => '\n'
  | 'r' => '\r'
  | 't' => '\t'
  | 'b' => '\x08'
  | 'f' => '\x0c'
  | c => c

/-- The character at the front of an escaped text, and what stands behind it. -/
def escapedAt : Text → Option (Char × Text)
  | [] => none
  | '\x5c' :: 'u' :: s => some (Char.ofNat (hexValue (s.take 4)), s.drop 4)
  | '\x5c' :: c :: s => some (escaped c, s)
  | c :: s => some (c, s)

/-- Controls are spelled with four digits that spell them, and show. -/
theorem hex_control : ∀ n < 0x20, (Text.hex 4 n).length = 4 ∧ hexValue (Text.hex 4 n) = n ∧
    (Text.hex 4 n).all (fun c => 0x20 ≤ c.toNat) := by
  decide

/-- A character is written as a backslash and a letter, as its number if it is another control, or
as it is. -/
theorem escape_cases (c : Char) :
    (∃ d, escape c = ['\x5c', d] ∧ escaped d = c ∧ d ≠ 'u' ∧ 0x20 ≤ d.toNat) ∨
    (escape c = '\x5c' :: 'u' :: Text.hex 4 c.toNat ∧ c.toNat < 0x20) ∨
    (escape c = [c] ∧ c ≠ '"' ∧ c ≠ '\x5c' ∧ 0x20 ≤ c.toNat) := by
  unfold escape
  split
  · next special =>
    refine .inl ⟨c, rfl, ?_⟩
    rcases special with rfl | rfl <;> decide
  · next plain =>
    split
    · next same => exact .inl ⟨'n', rfl, same.symm, by decide, by decide⟩
    split
    · next same => exact .inl ⟨'r', rfl, same.symm, by decide, by decide⟩
    split
    · next same => exact .inl ⟨'t', rfl, same.symm, by decide, by decide⟩
    split
    · next same => exact .inl ⟨'b', rfl, same.symm, by decide, by decide⟩
    split
    · next same => exact .inl ⟨'f', rfl, same.symm, by decide, by decide⟩
    split
    · next control => exact .inr (.inl ⟨rfl, control⟩)
    · next shown =>
      have apart := not_or.1 plain
      exact .inr (.inr ⟨rfl, apart.1, apart.2, Nat.le_of_not_lt shown⟩)

/-- What a character is written as gives the character back. -/
theorem escapedAt_escape (c : Char) (s : Text) : escapedAt (escape c ++ s) = some (c, s) := by
  rcases escape_cases c with ⟨d, written, means, letter, -⟩ | ⟨written, control⟩ |
    ⟨written, -, other, -⟩
  · rw [written, ← means]
    simp only [List.cons_append, List.nil_append]
    rw [escapedAt]
    exact letter
  · obtain ⟨four, value, -⟩ := hex_control c.toNat control
    have front : (Text.hex 4 c.toNat ++ s).take 4 = Text.hex 4 c.toNat := List.take_left' four
    have back : (Text.hex 4 c.toNat ++ s).drop 4 = s := List.drop_left' four
    rw [written]
    simp only [List.cons_append, escapedAt, front, back, value, Char.ofNat_toNat]
  · rw [written, List.singleton_append, escapedAt]
    · exact fun _ same => absurd same other
    · exact fun _ _ same => absurd same other

/-- What is written of a character shows. -/
theorem le_of_mem_escape {c d : Char} (h : d ∈ escape c) : 0x20 ≤ d.toNat := by
  rcases escape_cases c with ⟨e, written, -, -, shown⟩ | ⟨written, control⟩ | ⟨written, -, -, shown⟩
  · rw [written] at h
    simp only [List.mem_cons, List.not_mem_nil, or_false] at h
    rcases h with rfl | rfl
    · decide
    · exact shown
  · obtain ⟨-, -, digits⟩ := hex_control c.toNat control
    rw [written, List.mem_cons, List.mem_cons] at h
    rcases h with rfl | rfl | h
    · decide
    · decide
    · exact of_decide_eq_true (List.all_eq_true.1 digits d h)
  · rw [written, List.mem_singleton] at h
    rw [h]
    exact shown

/-- No character is written as nothing, and none with a bare quote in front. -/
theorem exists_escape (c : Char) : ∃ d s, escape c = d :: s ∧ d ≠ '"' := by
  rcases escape_cases c with ⟨d, written, -⟩ | ⟨written, -⟩ | ⟨written, quote, -⟩
  · exact ⟨_, _, written, by decide⟩
  · exact ⟨_, _, written, by decide⟩
  · exact ⟨_, _, written, quote⟩

/-- A written text shows where it ends. -/
theorem selfDelimiting_writeText : SelfDelimiting writeText := by
  have escapes : SelfDelimiting escape := .of_reader escapedAt_escape
  have closed : SelfDelimiting fun t : Text => t.flatMap escape ++ ['"'] := by
    apply escapes.upTo
    intro c s t same
    obtain ⟨d, rest, written, quote⟩ := exists_escape c
    rw [written] at same
    exact quote (List.cons.inj same).1
  intro t u s s' same
  exact closed (List.cons.inj same).2

/-- No character of the text is below the space. -/
def Shows (t : Text) : Prop := ∀ c ∈ t, 0x20 ≤ c.toNat

theorem Shows.append {s t : Text} (hs : Shows s) (ht : Shows t) : Shows (s ++ t) :=
  List.forall_mem_append.2 ⟨hs, ht⟩

theorem Shows.of_all {t : Text} (h : t.all (fun c => decide (0x20 ≤ c.toNat)) = true) : Shows t :=
  fun c hc => of_decide_eq_true (List.all_eq_true.1 h c hc)

theorem Shows.newLine_not_mem {t : Text} (h : Shows t) : '\n' ∉ t :=
  fun there => absurd (h '\n' there) (by decide)

theorem shows_writeText (t : Text) : Shows (writeText t) := by
  have quote : Shows ['"'] := .of_all rfl
  have escapes : Shows (t.flatMap escape) := by
    intro d h
    obtain ⟨c, -, written⟩ := List.mem_flatMap.1 h
    exact le_of_mem_escape written
  exact (quote.append escapes).append quote

end Json

end Phrasebook
