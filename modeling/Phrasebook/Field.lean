import Phrasebook.Value

/-!
# Fields

A field binds a key to a scalar for the time of one call and overrides what a store holds
for the key. Keys are compared exactly. Of several fields with one key the first counts,
and a missing field in a list is passed over: `Field.find?` is the only way a list of
fields is read.
-/

namespace Phrasebook

/-- A binding of a key to a scalar. -/
structure Field where
  key : Text
  value : Scalar := .null
  deriving DecidableEq, Repr

/-- A value of a kind that no field can hold. -/
structure UnsupportedKind where
  kind : Text
  deriving DecidableEq, Repr

/-- The wording of the refusal of a value. -/
def UnsupportedKind.message (u : UnsupportedKind) : Text :=
  "unsupported field value type ".toList ++ Text.quoted u.kind ++
    "; expected None, bool, int, float or str".toList

/-- The scalar that a value is. -/
def Value.scalar? : Value → Except UnsupportedKind Scalar
  | .scalar s => .ok s
  | v => .error ⟨v.kind⟩

namespace Field

/-- The field that binds a key to a value of a supported kind. -/
def make (key : Text) (value : Value) : Except UnsupportedKind Field :=
  (fun s => ⟨key, s⟩) <$> value.scalar?

/-- The wording of the field's value. -/
def wording (f : Field) : Text := f.value.wording

/-- Truth of the field's value. -/
def holds (f : Field) : Bool := f.value.holds

/-- The spelling of a field in a message. -/
def literal (f : Field) : Text :=
  "EntryField(".toList ++ Text.quoted f.key ++ ", ".toList ++ f.value.literal ++ ")".toList

/-- Equality of fields: the same key, and the same value with numbers compared by value. -/
def same (f g : Field) : Bool := f.key == g.key && f.value.same g.value

/-- The value that a list of fields binds to a key: that of the first field with the key. -/
def find? (key : Text) : List (Option Field) → Option Scalar
  | [] => none
  | none :: fs => find? key fs
  | some f :: fs => if f.key = key then some f.value else find? key fs

@[simp] theorem find?_nil (key : Text) : find? key [] = none := rfl

@[simp] theorem find?_none_cons (key : Text) (fs : List (Option Field)) :
    find? key (none :: fs) = find? key fs := rfl

theorem find?_some_cons (key : Text) (f : Field) (fs : List (Option Field)) :
    find? key (some f :: fs) = if f.key = key then some f.value else find? key fs := rfl

/-- Nothing is bound to a key that no field has. -/
theorem find?_eq_none_iff {key : Text} {fs : List (Option Field)} :
    find? key fs = none ↔ ∀ f, some f ∈ fs → f.key ≠ key := by
  induction fs with
  | nil => simp
  | cons first rest ih =>
    cases first with
    | none => simp [ih]
    | some f =>
      by_cases h : f.key = key
      · simp [find?_some_cons, h]
      · simp [find?_some_cons, h, ih]

/-- A value that is bound to a key is that of a field with the key. -/
theorem exists_of_find? {key : Text} {v : Scalar} {fs : List (Option Field)}
    (h : find? key fs = some v) : ∃ f, some f ∈ fs ∧ f.key = key ∧ f.value = v := by
  induction fs with
  | nil => cases h
  | cons first rest ih =>
    have later (h : find? key rest = some v) :
        ∃ f, some f ∈ first :: rest ∧ f.key = key ∧ f.value = v := by
      obtain ⟨f, hf, bound⟩ := ih h
      exact ⟨f, List.mem_cons_of_mem first hf, bound⟩
    cases first with
    | none => exact later h
    | some f =>
      by_cases same : f.key = key
      · rw [find?_some_cons, if_pos same] at h
        exact ⟨f, List.mem_cons_self, same, Option.some.inj h⟩
      · rw [find?_some_cons, if_neg same] at h
        exact later h

/-- The first field with a key is the one that counts. -/
theorem find?_of_first {f : Field} {before : List (Option Field)}
    (h : ∀ g, some g ∈ before → g.key ≠ f.key) (behind : List (Option Field)) :
    find? f.key (before ++ some f :: behind) = some f.value := by
  induction before with
  | nil => simp [find?_some_cons]
  | cons first before ih =>
    have rest := ih fun g hg => h g (List.mem_cons_of_mem first hg)
    cases first with
    | none => exact rest
    | some g =>
      have other : g.key ≠ f.key := h g List.mem_cons_self
      rw [List.cons_append, find?_some_cons, if_neg other, rest]

end Field

end Phrasebook
