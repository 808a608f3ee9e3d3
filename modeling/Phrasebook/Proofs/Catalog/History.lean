import Mathlib.Data.List.Induction
import Phrasebook.Proofs.Catalog.Merging
import Phrasebook.Proofs.Text.Case

/-!
# A catalog is the fold of its writes

A catalog changes by merging its own file, by merging another one and by writing an entry. Each of
these is a list of writes (`Change.writes`), and as long as no change fails, a catalog is what all
the writes since its start leave: the colours of English first, then file by file in the order of
the document. What it answers for a key is the last write under the small form of the key, and
the keys stand in the order of their first writes (`replay_last_write`).

That a key that is listed is found again at its own name rests on the small form of a text being
its own small form.
-/

namespace Phrasebook

namespace Entries

/-- The last of some writes under the small form of a key. -/
def lastWrite (writes : List (Text × Entry)) (key : Text) : Option Entry :=
  (writes.reverse.find? fun w => Text.lower w.1 == Text.lower key).map Prod.snd

/-- What is found is what was written last. -/
theorem find?_ofList (writes : List (Text × Entry)) (key : Text) :
    (ofList writes).find? key = lastWrite writes key := by
  induction writes with
  | nil => rfl
  | cons w writes ih =>
    rw [find?_ofList_cons, ih, lastWrite, lastWrite, List.reverse_cons, List.find?_append,
      Option.map_or]
    congr 1
    by_cases same : Text.lower key = Text.lower w.1
    · simp [same]
    · simp [same, Ne.symm same]

theorem ofList_concat (writes : List (Text × Entry)) (w : Text × Entry) :
    ofList (writes ++ [w]) = (ofList writes).insert w.1 w.2 := by
  simp [ofList]

/-- The keys are the small forms of what was written, in the order of the first writes. -/
theorem keys_ofList (writes : List (Text × Entry)) :
    (ofList writes).keys = (writes.map fun w => Text.lower w.1).eraseDups := by
  induction writes using List.reverseRecOn with
  | nil => rfl
  | append_singleton writes w ih =>
    rw [ofList_concat, keys_insert, ih, List.map_append, List.eraseDups_append]
    simp only [List.mem_eraseDups, List.map_cons, List.map_nil, List.removeAll]
    split
    · next old => simp [old]
    · next new =>
      simp only [List.filter_cons, List.elem_eq_contains, List.contains_eq_mem, new,
        decide_false, Bool.not_false, if_true, List.filter_nil]
      rfl

theorem nodup_keys_insert {es : Entries} (h : es.keys.Nodup) (key : Text) (entry : Entry) :
    (es.insert key entry).keys.Nodup := by
  rw [keys_insert]
  split
  · exact h
  · next new =>
    refine List.nodup_append.2 ⟨h, List.pairwise_singleton _ _, fun k hk k' hk' same => ?_⟩
    rw [List.mem_singleton.1 hk'] at same
    exact new (same ▸ hk)

theorem nodup_keys_ofList (writes : List (Text × Entry)) : (ofList writes).keys.Nodup := by
  induction writes using List.reverseRecOn with
  | nil => exact List.nodup_nil
  | append_singleton writes w ih =>
    rw [ofList_concat]
    exact nodup_keys_insert ih w.1 w.2

/-- Where every key stands once, an entry is found under its exact key. -/
theorem lookup_of_nodup {α β : Type} [BEq α] [LawfulBEq α] {es : List (α × β)}
    (h : (es.map Prod.fst).Nodup) {key : α} {entry : β} (listed : (key, entry) ∈ es) :
    es.lookup key = some entry := by
  obtain ⟨before, after, rfl⟩ := List.append_of_mem listed
  refine List.lookup_eq_some_iff.2 ⟨before, after, rfl, fun e he => ?_⟩
  rw [List.map_append, List.nodup_append] at h
  have other : e.1 ≠ key := h.2.2 e.1 (List.mem_map_of_mem he) key (by simp)
  simpa using other.symm

/-- A key that is listed is small, and its entry is found under it. -/
theorem find?_of_listed (writes : List (Text × Entry)) {key : Text} {entry : Entry}
    (listed : (key, entry) ∈ (ofList writes).toList) :
    Text.lower key = key ∧ (ofList writes).find? key = some entry := by
  have small : Text.lower key = key := by
    have written : key ∈ (ofList writes).keys := List.mem_map_of_mem listed
    rw [keys_ofList, List.mem_eraseDups] at written
    obtain ⟨w, -, rfl⟩ := List.mem_map.1 written
    exact Text.lower_lower w.1
  refine ⟨small, ?_⟩
  rw [find?, small]
  exact lookup_of_nodup (nodup_keys_ofList writes) listed

theorem insertAll_append (es : Entries) (first second : List (Text × Entry)) :
    (es.insertAll first).insertAll second = es.insertAll (first ++ second) :=
  List.foldl_append.symm

end Entries

namespace Catalog

/-- The writes that a document stands for: the entries of its mapping in their order. -/
def documentWrites (logger : Text) (d : Document) : List (Text × Entry) :=
  match d.part d.root with
  | .dict parts => parts.filterMap fun part => (entryAt logger d part).toOption
  | _ => []

/-- The writes that the file at a path stands for. -/
def fileWrites (tree : Tree) (logger path : Text) : List (Text × Entry) :=
  match tree.read (Path.clean path) with
  | .error _ => []
  | .ok content =>
    match document (Path.clean path) content with
    | .error _ => []
    | .ok d => documentWrites logger d

section Files

variable {tree : Tree} {logger path : Text} {d : Document} {c : Catalog}

theorem documentWrites_of_makes {parts : List (PartId × PartId)} {written : List (Text × Entry)}
    (root : d.part d.root = .dict parts) (h : Makes logger d parts written) :
    documentWrites logger d = written := by
  simp only [documentWrites, root]
  clear root
  induction h with
  | nil => rfl
  | @cons part entry parts written made _ ih =>
    rw [List.filterMap_cons, made, ih]
    rfl

/-- A document that is merged without a fault stands for nothing, or all its entries are made and
written. -/
theorem mergeDocument_of_no_fault (h : (c.mergeDocument logger path d).fault = none) :
    (c.mergeDocument logger path d).value =
      { c with entries := c.entries.insertAll (documentWrites logger d) } := by
  by_cases nothing : d.part d.root = .leaf (.scalar .null)
  · simp only [mergeDocument, documentWrites, nothing]
    rfl
  by_cases mapping : ∃ parts, d.part d.root = .dict parts
  · obtain ⟨parts, root⟩ := mapping
    have outcome := mergeDocument_dict root logger path c
    rcases makes_or_refused logger d parts with ⟨written, made⟩ |
      ⟨before, part, after, written, f, rfl, made, refused⟩
    · have all := addAll_append made [] c
      rw [List.append_nil] at all
      rw [documentWrites_of_makes root made]
      exact congrArg Prod.fst (outcome.trans all)
    · -- A part that is refused would be the fault.
      rw [addAll_append made (part :: after), addAll_refused refused] at outcome
      cases h.symm.trans (congrArg Prod.snd outcome)
  · unfold mergeDocument at h
    split at h
    · next same => exact absurd same nothing
    · next parts same => exact absurd ⟨parts, same⟩ mapping
    · cases h

/-- A file that cannot be read and a document that stands for nothing change nothing. -/
theorem merge_nothing (c : Catalog) (logger : Text)
    (h : (∃ f, tree.read (Path.clean path) = .error f) ∨
      ∃ d, Opens tree path d ∧ d.part d.root = .leaf (.scalar .null)) :
    (c.merge tree logger path).value = c ∧
      (tree.read (Path.clean path) ≠ .error .nullCharacter →
        (c.merge tree logger path).fault = none) := by
  rcases h with ⟨f, read⟩ | ⟨d, opens, nothing⟩
  · simp only [merge, read]
    cases f with
    | nullCharacter => exact ⟨rfl, fun possible => absurd rfl possible⟩
    | notFound | isFolder | notFolder | nameTooLong => exact ⟨rfl, fun _ => rfl⟩
  · rw [merge_of_opens opens]
    simp only [mergeDocument, nothing]
    exact ⟨trivial, fun _ => trivial⟩

/-- A merge that does not fail makes the writes of its file. -/
theorem merge_of_no_fault (h : (c.merge tree logger path).fault = none) :
    (c.merge tree logger path).value =
      { c with entries := c.entries.insertAll (fileWrites tree logger path) } := by
  cases read : tree.read (Path.clean path) with
  | error f =>
    rw [(merge_nothing c logger (.inl ⟨f, read⟩)).1]
    simp only [fileWrites, read]
    rfl
  | ok content =>
    cases opened : document (Path.clean path) content with
    | error f =>
      simp only [merge, read, opened] at h
      cases h
    | ok d =>
      rw [merge_of_opens ⟨content, read, opened⟩] at h ⊢
      simp only [fileWrites, read, opened]
      exact mergeDocument_of_no_fault h

end Files

/-- A change of a catalog. The files may have changed since the one before, so a merge has the
tree that it reads. -/
inductive Change where
  /-- Merge the catalog's own file. -/
  | load (tree : Tree)
  /-- Merge the file at a path. -/
  | append (tree : Tree) (path : Text)
  /-- Write an entry. -/
  | add (key : Text) (entry : Entry)

namespace Change

/-- Make a change. -/
def apply (logger : Text) (c : Catalog) : Change → Merged Catalog
  | .load tree => c.load tree logger
  | .append tree path => c.merge tree logger path
  | .add key entry => { value := c.add key entry }

/-- The writes that a change stands for, given the path of the catalog's own file. -/
def writes (logger own : Text) : Change → List (Text × Entry)
  | .load tree => fileWrites tree logger own
  | .append tree path => fileWrites tree logger path
  | .add key entry => [(key, entry)]

/-- A change that does not fail makes its writes, and nothing else. -/
theorem apply_of_no_fault {logger : Text} {c : Catalog} {change : Change}
    (h : (change.apply logger c).fault = none) :
    (change.apply logger c).value =
      { c with entries := c.entries.insertAll (change.writes logger c.path) } := by
  cases change with
  | load tree => exact merge_of_no_fault h
  | append tree path => exact merge_of_no_fault h
  | add key entry => rfl

end Change

/-- Make changes one after the other, up to the first that fails. -/
def replay (logger : Text) : List Change → Catalog → Except CatalogFault Catalog
  | [], c => .ok c
  | change :: rest, c =>
    let merged := change.apply logger c
    match merged.fault with
    | some f => .error f
    | none => replay logger rest merged.value

/-- Changes that do not fail make their writes in their order. -/
theorem replay_ok {logger : Text} {changes : List Change} {c after : Catalog}
    (h : replay logger changes c = .ok after) :
    after =
      { c with entries := c.entries.insertAll (changes.flatMap (·.writes logger c.path)) } := by
  induction changes generalizing c with
  | nil =>
    obtain rfl : c = after := Except.ok.inj h
    rfl
  | cons change changes ih =>
    rw [replay] at h
    split at h
    · cases h
    · next noFault =>
      rw [Change.apply_of_no_fault noFault] at h
      rw [ih h, List.flatMap_cons, ← Entries.insertAll_append]

/-- The writes that a catalog starts with. -/
def seeds (language : Language) : List (Text × Entry) :=
  if language = .english then ChatColor.entries.map fun e => (e.1, .text e.2) else []

theorem entries_new (path : Text) (language : Language) :
    (new path language).entries = Entries.ofList (seeds language) := by
  unfold new seeds
  dsimp only
  split <;> rfl

/-- **A catalog is the fold of its writes.** After changes that did not fail, what is found under
a key, and so what is there and what is got, is the last write under the small form of the key,
the colours of English being written first. The keys are the small forms of what was written, each
once and in the order of the first writes, and every key that is listed is small and finds the
entry it is listed with. A file that cannot be read and a document that stands for nothing change
nothing. -/
theorem replay_last_write (logger path : Text) (language : Language) (changes : List Change)
    (c : Catalog) (h : replay logger changes (new path language) = .ok c) :
    let history := seeds language ++ changes.flatMap (·.writes logger (Path.clean path))
    (∀ key, c.entries.find? key = Entries.lastWrite history key ∧
      c.entries.contains key = (Entries.lastWrite history key).isSome ∧
      ∀ draws, (c.get draws key).1 = match Entries.lastWrite history key with
        | none => none
        | some (.text t) => some t
        | some (.pool p) => (p.roll draws).1) ∧
    (c.entries.keys = (history.map fun w => Text.lower w.1).eraseDups ∧ c.entries.keys.Nodup ∧
      c.entries.size = c.entries.keys.length) ∧
    (∀ key entry, (key, entry) ∈ c.entries.toList →
      Text.lower key = key ∧ c.entries.find? key = some entry) ∧
    ∀ tree p, ((∃ f, tree.read (Path.clean p) = .error f) ∨
        ∃ d, Opens tree p d ∧ d.part d.root = .leaf (.scalar .null)) →
      (c.merge tree logger p).value = c ∧
      (tree.read (Path.clean p) ≠ .error .nullCharacter →
        (c.merge tree logger p).fault = none) := by
  intro history
  have written : c.entries = Entries.ofList history := by
    rw [replay_ok h, entries_new]
    exact Entries.insertAll_append {} (seeds language) _
  have found (key : Text) : c.entries.find? key = Entries.lastWrite history key := by
    rw [written, Entries.find?_ofList]
  refine ⟨fun key => ⟨found key, ?_, fun draws => ?_⟩, ⟨?_, ?_, ?_⟩, fun key entry listed => ?_,
    fun tree p nothing => merge_nothing c logger nothing⟩
  · rw [Entries.contains, found]
  · rw [get, found]
    cases Entries.lastWrite history key with
    | none => rfl
    | some entry => cases entry <;> rfl
  · rw [written, Entries.keys_ofList]
  · rw [written]
    exact Entries.nodup_keys_ofList history
  · exact (List.length_map _).symm
  · rw [written] at listed ⊢
    exact Entries.find?_of_listed history listed

/-- A tree with one file, which spells one key in two ways. -/
def spelledTree : Tree := .folder [(['m'], .file (.document
  (.ofValue (.dict [(.ofText ['A'], .ofText ['x']), (.ofText ['b'], .ofText ['y']),
    (.ofText ['a'], .ofText ['z'])]))))]

/-- A catalog that loads that file between two writes of its own. -/
theorem replay_last_write_spelled :
    ∃ c, replay [] [.add ['B'] (.text ['1']), .load spelledTree, .add ['c'] (.text ['2'])]
        (new ['m'] .german) = .ok c ∧
      c.entries.find? ['A'] = some (.text ['z']) ∧ c.entries.find? ['B'] = some (.text ['y']) ∧
      c.entries.keys = [['b'], ['a'], ['c']] := by
  refine ⟨_, rfl, ?_⟩
  obtain ⟨found, ⟨keys, -⟩, -⟩ := replay_last_write [] ['m'] .german
    [.add ['B'] (.text ['1']), .load spelledTree, .add ['c'] (.text ['2'])] _ rfl
  refine ⟨(found ['A']).1.trans rfl, (found ['B']).1.trans rfl, keys.trans (by decide +kernel)⟩

end Catalog

end Phrasebook
