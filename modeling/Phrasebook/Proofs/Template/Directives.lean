import Phrasebook.Proofs.Template.Grammar
import Phrasebook.Proofs.Text.Trim

/-!
# Keys and choices

The text of a hole is a choice by its shape alone: it starts with the word, and has two colons or
nothing but the word before the first one (`Directive.Choosy`). Any other text is a key, and is read
as it is if it is trimmed (`Template.IsKey.readDirective`).

A choice that is written down with a head and its parts behind colons is read back with these parts
(`Directive.IsHead.read_choice`). White space is taken off the text before it is split and off the
keys afterwards, and neither the head nor the last part sees what is taken off the other end.
-/

namespace Phrasebook

namespace Directive

/-- The shape of a choice. -/
def Choosy (text : Text) : Prop :=
  word <+: text ∧ (2 ≤ text.count ':' ∨ Text.trim (text.takeWhile (· != ':')) = word)

instance : DecidablePred Choosy := fun text =>
  inferInstanceAs (Decidable (word <+: text ∧
    (2 ≤ text.count ':' ∨ Text.trim (text.takeWhile (· != ':')) = word)))

/-- A text of another shape is a key. -/
theorem read_of_not_choosy {raw : Text} (h : ¬ Choosy (Text.trim raw)) :
    read raw = .key (Text.trim raw) := by
  have pieces : 3 ≤ (Text.splitAtMost ':' 3 (Text.trim raw)).length ↔
      2 ≤ (Text.trim raw).count ':' := by
    rw [Text.length_splitAtMost]
    omega
  have first := Text.head?_splitAtMost ':' 2 (Text.trim raw)
  unfold read
  simp only
  rw [if_neg]
  simpa [Choosy, pieces, first] using h

/-- What stands before the first colon of a choice: behind white space it starts with the word. -/
structure IsHead (head : Text) : Prop where
  starts : word <+: head.dropWhile Text.isBlank
  colonless : ':' ∉ head

/-- The key that a choice asks for by the verdict on its condition, if it asks for any. -/
def chosen (whenTrue : Text) (whenFalse : Option Text) : Option Bool → Option Text
  | some true => some whenTrue
  | some false => whenFalse
  | none => none

namespace IsHead

variable {head : Text}

/-- The parts of a text behind a head. -/
theorem splitAtMost_trim (h : IsHead head) (n : Nat) (rest : Text) :
    Text.splitAtMost ':' (n + 1) (Text.trim (head ++ ':' :: rest)) =
      head.dropWhile Text.isBlank :: Text.splitAtMost ':' n (rest.rdropWhile Text.isBlank) := by
  have colonless : ':' ∉ head.dropWhile Text.isBlank := fun colon =>
    h.colonless ((List.dropWhile_suffix _).subset colon)
  rw [Text.trim_append_cons (by decide), Text.splitAtMost_append colonless]

theorem word_prefix (h : IsHead head) (rest : Text) :
    word <+: Text.trim (head ++ ':' :: rest) := by
  rw [Text.trim_append_cons (by decide)]
  exact h.starts.trans (List.prefix_append _ _)

/-- A choice with all its parts is read back. Only the last part may have colons. -/
theorem read_choice (h : IsHead head) {condition whenTrue : Text} (hcondition : ':' ∉ condition)
    (htrue : ':' ∉ whenTrue) (whenFalse : Text) :
    read (head ++ ':' :: (condition ++ ':' :: (whenTrue ++ ':' :: whenFalse))) =
      .choose condition (Text.trim whenTrue) (some (Text.trim whenFalse)) := by
  have parts := h.splitAtMost_trim 2 (condition ++ ':' :: (whenTrue ++ ':' :: whenFalse))
  rw [Text.rdropWhile_append_cons (by decide), Text.rdropWhile_append_cons (by decide),
    Text.splitAtMost_append hcondition, Text.splitAtMost_append htrue,
    Text.splitAtMost_zero] at parts
  unfold read
  simp only [parts, List.isPrefixOf_iff_prefix.2 (h.word_prefix _)]
  simp [Text.trim_rdropWhile]

/-- So is a choice without its last part. -/
theorem read_choice_short (h : IsHead head) {condition whenTrue : Text}
    (hcondition : ':' ∉ condition) (htrue : ':' ∉ whenTrue) :
    read (head ++ ':' :: (condition ++ ':' :: whenTrue)) =
      .choose condition (Text.trim whenTrue) none := by
  have parts := h.splitAtMost_trim 2 (condition ++ ':' :: whenTrue)
  rw [Text.rdropWhile_append_cons (by decide), Text.splitAtMost_append hcondition,
    Text.splitAtMost_of_not_mem (Text.not_mem_rdropWhile htrue)] at parts
  unfold read
  simp only [parts, List.isPrefixOf_iff_prefix.2 (h.word_prefix _)]
  simp [Text.trim_rdropWhile]

/-- With one part behind the word there is nothing to choose from. -/
theorem read_condition (h : IsHead head) (bare : Text.trim head = word) {condition : Text}
    (hcondition : ':' ∉ condition) : read (head ++ ':' :: condition) = .nothing := by
  have parts := h.splitAtMost_trim 2 condition
  rw [Text.splitAtMost_of_not_mem (Text.not_mem_rdropWhile hcondition)] at parts
  unfold read
  simp only [parts, List.isPrefixOf_iff_prefix.2 (h.word_prefix _)]
  simp [Text.trim_dropWhile, bare]

end IsHead

/-- Nor is there behind the word alone. -/
theorem read_word {raw : Text} (bare : Text.trim raw = word) : read raw = .nothing := by
  unfold read
  rw [bare]
  decide

end Directive

namespace Template

/-- A text that can be the key of a hole as it is. -/
structure IsKey (key : Text) : Prop where
  trimmed : Text.trim key = key
  unpaired : Unpaired '}' key
  plain : ¬ Directive.Choosy key

variable {key : Text}

/-- A trimmed text that does not start with the word can be a key if it has no closing brace. -/
theorem IsKey.of_not_word (trimmed : Text.trim key = key) (brace : '}' ∉ key)
    (word : ¬ Directive.word <+: key) : IsKey key :=
  ⟨trimmed, .of_not_mem brace, fun choosy => word choosy.1⟩

theorem IsKey.readDirective (h : IsKey key) : Directive.read key = .key key := by
  have plain : ¬ Directive.Choosy (Text.trim key) := h.trimmed.symm ▸ h.plain
  rw [Directive.read_of_not_choosy plain, h.trimmed]

end Template

end Phrasebook
