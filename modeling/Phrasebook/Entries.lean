import Phrasebook.Expansion.Run

/-!
# Entries

The entries of a language are a map from keys to texts and pools, kept in the order in
which the keys were first written. Keys are the small forms of what is asked for, so that
case never matters. `insert` writes over an entry at its place, and the lemmas say what it
does to `find?` and to the keys, and when one write undoes or passes another.
-/

namespace Phrasebook

/-- What a key stands for: a text, or a pool of texts. -/
inductive Entry where
  | text (t : Text)
  | pool (p : Pool)

/-- A map from keys to entries, in the order of the first writes. -/
structure Entries where
  toList : List (Text × Entry) := []

namespace Entries

/-- Write an entry at the place of its key, or at the end. -/
def put (key : Text) (entry : Entry) : List (Text × Entry) → List (Text × Entry)
  | [] => [(key, entry)]
  | (k, e) :: rest => if k = key then (k, entry) :: rest else (k, e) :: put key entry rest

/-- Write an entry under the small form of a key. -/
def insert (es : Entries) (key : Text) (entry : Entry) : Entries :=
  ⟨put (Text.lower key) entry es.toList⟩

/-- The entry under the small form of a key. -/
def find? (es : Entries) (key : Text) : Option Entry := es.toList.lookup (Text.lower key)

/-- Is there an entry under the small form of a key? -/
def contains (es : Entries) (key : Text) : Bool := (es.find? key).isSome

/-- The keys in the order of the first writes. -/
def keys (es : Entries) : List Text := es.toList.map Prod.fst

/-- The number of entries. -/
def size (es : Entries) : Nat := es.toList.length

/-- The entries written one after the other. -/
def ofList (es : List (Text × Entry)) : Entries :=
  es.foldl (fun m e => m.insert e.1 e.2) {}

/-- The pool under an exact key; where there is none it is empty. -/
def pools (es : Entries) (key : Text) : Pool :=
  match es.toList.lookup key with
  | some (.pool p) => p
  | _ => {}

/-- The entries with every pool exchanged for the one of its key. -/
def restock (es : Entries) (pools : Text → Pool) : Entries :=
  ⟨es.toList.map fun e =>
    match e with
    | (k, .pool _) => (k, .pool (pools k))
    | (k, .text t) => (k, .text t)⟩

/-- The entries as a store, where a pool stands at the small form of its key. -/
def find {lang : Type} (es : Entries) : Store Text lang := fun key _ =>
  match es.find? key with
  | some (.text t) => some (.text t)
  | some (.pool _) => some (.pool (Text.lower key))
  | none => none

theorem lookup_put (key k : Text) (entry : Entry) (es : List (Text × Entry)) :
    (put key entry es).lookup k = if k = key then some entry else es.lookup k := by
  induction es with
  | nil =>
    by_cases h : k = key
    · simp [put, h]
    · simp [put, List.lookup_cons, h, beq_eq_false_iff_ne.2 h]
  | cons e rest ih =>
    obtain ⟨k', e'⟩ := e
    by_cases hk : k' = key
    · subst hk
      by_cases h : k = k'
      · simp [put, h]
      · simp [put, List.lookup_cons, h, beq_eq_false_iff_ne.2 h]
    · by_cases h : k = k'
      · subst h
        simp [put, hk]
      · simp [put, hk, List.lookup_cons, beq_eq_false_iff_ne.2 h, ih]

theorem keys_put (key : Text) (entry : Entry) (es : List (Text × Entry)) :
    (put key entry es).map Prod.fst =
      if key ∈ es.map Prod.fst then es.map Prod.fst else es.map Prod.fst ++ [key] := by
  induction es with
  | nil => simp [put]
  | cons e rest ih =>
    obtain ⟨k', e'⟩ := e
    by_cases hk : k' = key
    · subst hk
      simp [put]
    · have hk' : ¬ key = k' := fun h => hk h.symm
      by_cases hm : key ∈ rest.map Prod.fst
      · simp only [put, hk, if_false, List.map_cons, ih, List.mem_cons, hm, or_true, if_true]
      · simp only [put, hk, if_false, List.map_cons, ih, List.mem_cons, hm, hk', or_self]
        simp

/-- The second of two writes to a key is the one that counts. -/
theorem put_put (key : Text) (old new : Entry) (es : List (Text × Entry)) :
    put key new (put key old es) = put key new es := by
  induction es with
  | nil => simp [put]
  | cons e rest ih =>
    obtain ⟨k, e⟩ := e
    by_cases hk : k = key
    · simp [put, hk]
    · simp [put, hk, ih]

/-- A write at a place that is there already can be made after one to another key. -/
theorem put_comm {key other : Text} (different : other ≠ key) (entry moved : Entry)
    {es : List (Text × Entry)} (h : key ∈ es.map Prod.fst) :
    put other moved (put key entry es) = put key entry (put other moved es) := by
  induction es with
  | nil => exact nomatch h
  | cons e rest ih =>
    obtain ⟨k, e⟩ := e
    by_cases hk : k = key
    · subst hk
      simp [put, different.symm]
    · have further : key ∈ rest.map Prod.fst :=
        (List.mem_cons.1 h).resolve_left fun same => hk same.symm
      by_cases ho : k = other
      · simp [put, ho, different]
      · simp [put, hk, ho, ih further]

/-- A write of what is there already changes nothing. -/
theorem put_eq_self {key : Text} {entry : Entry} {es : List (Text × Entry)}
    (h : es.lookup key = some entry) : put key entry es = es := by
  induction es with
  | nil => exact nomatch h
  | cons e rest ih =>
    obtain ⟨k, e⟩ := e
    by_cases hk : k = key
    · subst hk
      rw [List.lookup_cons_self] at h
      obtain rfl := Option.some.inj h
      simp [put]
    · have further : rest.lookup key = some entry := by
        rwa [List.lookup_cons, beq_eq_false_iff_ne.2 fun same => hk same.symm] at h
      simp [put, hk, ih further]

theorem find?_insert (es : Entries) (key k : Text) (entry : Entry) :
    (es.insert key entry).find? k =
      if Text.lower k = Text.lower key then some entry else es.find? k :=
  lookup_put _ _ _ _

theorem keys_insert (es : Entries) (key : Text) (entry : Entry) :
    (es.insert key entry).keys =
      if Text.lower key ∈ es.keys then es.keys else es.keys ++ [Text.lower key] :=
  keys_put _ _ _

theorem mem_keys_of_find? {es : Entries} {key : Text} {entry : Entry}
    (h : es.find? key = some entry) : Text.lower key ∈ es.keys := by
  obtain ⟨before, after, split, -⟩ := List.lookup_eq_some_iff.1 h
  rw [keys, split]
  simp

/-- Exchanging pools moves no key. -/
theorem keys_restock (es : Entries) (pools : Text → Pool) : (es.restock pools).keys = es.keys := by
  simp only [restock, keys, List.map_map]
  refine List.map_congr_left fun e _ => ?_
  obtain ⟨k, e⟩ := e
  cases e <;> rfl

end Entries

end Phrasebook
