import Phrasebook.Condition
import Phrasebook.Proofs.Text.Cuts
import Phrasebook.Template

/-!
# What is read of a text is a stretch of it

The keys of a template, what a directive asks for and the names of a condition are all
stretches of the text that they are read from: reading cuts and trims, and writes nothing of
its own.
-/

namespace Phrasebook

/-- What a directive asks for stands in a text. -/
def Directive.Within (text : Text) : Directive → Prop
  | .key name => name <:+: text
  | .choose condition whenTrue whenFalse =>
    condition <:+: text ∧ whenTrue <:+: text ∧ ∀ other ∈ whenFalse, other <:+: text
  | .nothing => True

/-- A directive asks for stretches of the text that it is read from. -/
theorem Directive.within_read (raw : Text) : (Directive.read raw).Within raw := by
  have part {q : Text} (h : q ∈ Text.splitAtMost ':' 3 (Text.trim raw)) : q <:+: raw :=
    (Text.infix_of_mem_splitAtMost h).trans (Text.trim_infix raw)
  have trimmed {q : Text} (h : q ∈ Text.splitAtMost ':' 3 (Text.trim raw)) :
      Text.trim q <:+: raw := (Text.trim_infix q).trans (part h)
  unfold Directive.read
  simp only
  split
  · split
    · next first condition whenTrue parts =>
      rw [parts] at part trimmed
      exact ⟨part (by simp), trimmed (by simp), fun other h => nomatch h⟩
    · next first condition whenTrue whenFalse parts =>
      rw [parts] at part trimmed
      refine ⟨part (by simp), trimmed (by simp), fun other h => ?_⟩
      obtain rfl := Option.some.inj h
      exact trimmed (by simp)
    · trivial
  · exact Text.trim_infix raw

/-- A bare name is a stretch of the condition that it is read from. -/
theorem Condition.Atom.infix_of_read {condition name : Text} {invert : Bool}
    (h : Condition.Atom.read condition = .bare name invert) : name <:+: condition := by
  unfold Condition.Atom.read Condition.Atom.comparison at h
  split at h
  · split at h <;> cases h
  · split at h
    · split at h <;> cases h
    · split at h
      · next rest _ _ =>
        cases h
        exact (Text.trim_infix rest).trans (List.suffix_cons '!' rest).isInfix
      · cases h
        exact List.infix_refl _

end Phrasebook
