import Mathlib.Data.List.Forall2
import Phrasebook.Catalog

/-!
# What a merge leaves when it fails

A merge writes the entries of a file one after the other, so when one of them cannot be made
the ones before it are in the catalog already. `Fails` says when a merge fails and which
entries it has written by then. A failed merge leaves the catalog as it was exactly if every
entry that counts among those stood there before (`merge_unchanged_iff`). So it does in
particular when the file cannot be opened or is no mapping: then nothing was written.
-/

namespace Phrasebook

namespace Entries

/-- Entries written one after the other into others. -/
def insertAll (es : Entries) (writes : List (Text × Entry)) : Entries :=
  writes.foldl (fun m e => m.insert e.1 e.2) es

/-- What is written counts before what was there. -/
theorem find?_insertAll (es : Entries) (writes : List (Text × Entry)) (key : Text) :
    (es.insertAll writes).find? key = ((ofList writes).find? key).or (es.find? key) := by
  induction writes generalizing es with
  | nil => rfl
  | cons w writes ih =>
    have written : (ofList (w :: writes)).find? key =
        ((ofList writes).find? key).or ((insert {} w.1 w.2).find? key) := ih _
    have step : (es.insertAll (w :: writes)).find? key =
        ((ofList writes).find? key).or ((es.insert w.1 w.2).find? key) := ih _
    rw [written, step, Option.or_assoc, find?_insert, find?_insert]
    split <;> rfl

theorem find?_ofList_cons (w : Text × Entry) (writes : List (Text × Entry)) (key : Text) :
    (ofList (w :: writes)).find? key =
      ((ofList writes).find? key).or
        (if Text.lower key = Text.lower w.1 then some w.2 else none) := by
  have written := find?_insertAll (insert {} w.1 w.2) writes key
  rw [find?_insert] at written
  exact written

/-- A write at a place that is there already is lost, if its key is written again. -/
theorem insertAll_overwritten {es : Entries} {writes : List (Text × Entry)} {key : Text}
    (entry : Entry) (here : Text.lower key ∈ es.keys)
    (again : (ofList writes).find? key ≠ none) :
    (es.insert key entry).insertAll writes = es.insertAll writes := by
  induction writes generalizing es with
  | nil => exact absurd rfl again
  | cons w writes ih =>
    -- The write is lost at once, or it moves behind the next one, which is to another key.
    by_cases same : Text.lower key = Text.lower w.1
    · have lost : (es.insert key entry).insert w.1 w.2 = es.insert w.1 w.2 := by
        simp only [insert, ← same, put_put]
      exact congrArg (insertAll · writes) lost
    · have later : (ofList writes).find? key ≠ none := by
        rwa [find?_ofList_cons, if_neg same, Option.or_none] at again
      have still : Text.lower key ∈ (es.insert w.1 w.2).keys := by
        rw [keys_insert]
        split
        · exact here
        · exact List.mem_append_left _ here
      have moved : (es.insert key entry).insert w.1 w.2 = (es.insert w.1 w.2).insert key entry :=
        congrArg Entries.mk (put_comm (Ne.symm same) entry w.2 here)
      calc ((es.insert key entry).insert w.1 w.2).insertAll writes
          = ((es.insert w.1 w.2).insert key entry).insertAll writes := by rw [moved]
        _ = (es.insert w.1 w.2).insertAll writes := ih still later

/-- Writes change nothing exactly if the last of each key was there before. -/
theorem insertAll_eq_self_iff {es : Entries} {writes : List (Text × Entry)} :
    es.insertAll writes = es ↔
      ∀ key entry, (ofList writes).find? key = some entry → es.find? key = some entry := by
  constructor
  · intro same key entry written
    rw [← same, find?_insertAll, written, Option.some_or]
  · intro there
    induction writes with
    | nil => rfl
    | cons w writes ih =>
      have kept : es.insertAll writes = es := by
        refine ih fun key entry written => there key entry ?_
        rw [find?_ofList_cons, written, Option.some_or]
      -- The first write either is the last of its key, or it is lost.
      match again : (ofList writes).find? w.1 with
      | none =>
        have first : es.find? w.1 = some w.2 := by
          refine there w.1 w.2 ?_
          rw [find?_ofList_cons, again, if_pos rfl, Option.none_or]
        have unchanged : es.insert w.1 w.2 = es := congrArg Entries.mk (put_eq_self first)
        exact (congrArg (insertAll · writes) unchanged).trans kept
      | some entry =>
        have here : es.find? w.1 = some entry := by
          refine there w.1 entry ?_
          rw [find?_ofList_cons, again, Option.some_or]
        have lost : (es.insert w.1 w.2).insertAll writes = es.insertAll writes :=
          insertAll_overwritten w.2 (mem_keys_of_find? here) (by simp [again])
        exact lost.trans kept

end Entries

/-- What a change leaves behind besides its records. -/
def Merged.outcome {α : Type} (merged : Merged α) : α × Option CatalogFault :=
  (merged.value, merged.fault)

/-- The faults of entries, as opposed to those of whole files. -/
def CatalogFault.OfEntry : CatalogFault → Prop
  | .noText _ | .notIterable _ => True
  | _ => False

namespace Catalog

/-- The entry that a part of a file makes under its key. -/
def entryAt (logger : Text) (d : Document) (part : PartId × PartId) :
    Except CatalogFault (Text × Entry) :=
  match d.spelling part.1 with
  | .error f => .error (.noText f)
  | .ok key => (entryOf logger key d part.2).result.map (key, ·)

/-- The parts make the entries, each its own. -/
def Makes (logger : Text) (d : Document) : List (PartId × PartId) → List (Text × Entry) → Prop :=
  List.Forall₂ fun part entry => entryAt logger d part = .ok entry

/-- The file at a path holds a document. -/
def Opens (tree : Tree) (path : Text) (d : Document) : Prop :=
  ∃ content, tree.read (Path.clean path) = .ok content ∧
    document (Path.clean path) content = .ok d

/-- The merge of a file fails with a fault, after it has written some entries. -/
inductive Fails (tree : Tree) (logger path : Text) : CatalogFault → List (Text × Entry) → Prop where
  /-- There can be no file at the path. -/
  | badPath : tree.read (Path.clean path) = .error .nullCharacter →
      Fails tree logger path (.badPath (Path.clean path) .nullCharacter) []
  /-- The file holds no document. -/
  | unopened {content : Content} {f : CatalogFault} :
      tree.read (Path.clean path) = .ok content →
      document (Path.clean path) content = .error f → Fails tree logger path f []
  /-- The document is something, but no mapping. -/
  | notMapping {d : Document} : Opens tree path d →
      d.part d.root ≠ .leaf (.scalar .null) → (∀ parts, d.part d.root ≠ .dict parts) →
      Fails tree logger path (.notMapping (Path.clean path) (d.part d.root).kind) []
  /-- An entry of the document cannot be made, but all before it can. -/
  | entry {d : Document} {before after : List (PartId × PartId)} {part : PartId × PartId}
      {written : List (Text × Entry)} {f : CatalogFault} : Opens tree path d →
      d.part d.root = .dict (before ++ part :: after) → Makes logger d before written →
      entryAt logger d part = .error f → Fails tree logger path f written

section Entry

variable {logger : Text} {d : Document} {f : CatalogFault}

theorem error_of_map {ε α β : Type} {made : Except ε α} {g : α → β} {f : ε}
    (h : made.map g = .error f) : made = .error f := by
  cases made with
  | error e =>
    obtain rfl : e = f := Except.error.inj h
    rfl
  | ok a => cases h

theorem ofEntry_of_mapError {α : Type} {made : Except TextFault α}
    (h : made.mapError CatalogFault.noText = .error f) : f.OfEntry := by
  cases made with
  | error g =>
    obtain rfl : CatalogFault.noText g = f := Except.error.inj h
    trivial
  | ok a => cases h

/-- Candidates are refused for a text of theirs, or because they are a date or a moment. -/
theorem ofEntry_of_candidates {i : PartId} (h : candidates d i = .error f) : f.OfEntry := by
  unfold candidates at h
  split at h
  case h_1 | h_3 | h_6 => cases h
  case h_4 | h_5 =>
    obtain rfl := Except.error.inj h
    trivial
  all_goals exact ofEntry_of_mapError h

theorem ofEntry_of_pool {key : Text} {parts : List (PartId × PartId)}
    (h : (pool logger key d parts).result = .error f) : f.OfEntry := by
  unfold pool at h
  split at h
  · obtain rfl := Except.error.inj h
    trivial
  · split at h
    · next refused =>
      obtain rfl := Except.error.inj h
      match hpool : member? d "pool" parts with
      | none => simp [hpool] at refused
      | some i =>
        rw [hpool] at refused
        exact ofEntry_of_candidates refused
    · cases h
    · cases h

theorem ofEntry_of_entryOf {key : Text} {i : PartId}
    (h : (entryOf logger key d i).result = .error f) : f.OfEntry := by
  unfold entryOf at h
  split at h
  · exact ofEntry_of_pool (error_of_map h)
  · exact ofEntry_of_mapError h

/-- An entry that cannot be made is refused for itself. -/
theorem ofEntry_of_entryAt {part : PartId × PartId} (h : entryAt logger d part = .error f) :
    f.OfEntry := by
  unfold entryAt at h
  split at h
  · obtain rfl := Except.error.inj h
    trivial
  · exact ofEntry_of_entryOf (error_of_map h)

end Entry

section Writing

variable {logger : Text} {d : Document} {f : CatalogFault}
  {before parts : List (PartId × PartId)} {part : PartId × PartId}
  {entry : Text × Entry} {written : List (Text × Entry)}

/-- The first part either makes an entry, which is written before the others, or it ends the
writing. -/
theorem addAll_cons (logger : Text) (d : Document) (part : PartId × PartId)
    (after : List (PartId × PartId)) (c : Catalog) :
    (addAll logger d (part :: after) c).outcome =
      match entryAt logger d part with
      | .error f => (c, some f)
      | .ok entry => (addAll logger d after (c.add entry.1 entry.2)).outcome := by
  obtain ⟨k, v⟩ := part
  simp only [addAll, entryAt]
  cases d.spelling k with
  | error f => rfl
  | ok key =>
    dsimp only
    cases (entryOf logger key d v).result with
    | error f => rfl
    | ok entry => rfl

theorem addAll_made (h : entryAt logger d part = .ok entry) (after : List (PartId × PartId))
    (c : Catalog) :
    (addAll logger d (part :: after) c).outcome =
      (addAll logger d after (c.add entry.1 entry.2)).outcome := by
  rw [addAll_cons, h]

theorem addAll_refused (h : entryAt logger d part = .error f) (after : List (PartId × PartId))
    (c : Catalog) : (addAll logger d (part :: after) c).outcome = (c, some f) := by
  rw [addAll_cons, h]

/-- Parts that can be made are written before all that stands behind them. -/
theorem addAll_append (h : Makes logger d before written) (after : List (PartId × PartId))
    (c : Catalog) :
    (addAll logger d (before ++ after) c).outcome =
      (addAll logger d after { c with entries := c.entries.insertAll written }).outcome := by
  induction h generalizing c with
  | nil => rfl
  | @cons part entry before written made _ ih =>
    exact (addAll_made made (before ++ after) c).trans (ih (c.add entry.1 entry.2))

/-- All parts can be made, or there is a first that cannot. -/
theorem makes_or_refused (logger : Text) (d : Document) (parts : List (PartId × PartId)) :
    (∃ written, Makes logger d parts written) ∨
      ∃ before part after written f, parts = before ++ part :: after ∧
        Makes logger d before written ∧ entryAt logger d part = .error f := by
  induction parts with
  | nil => exact .inl ⟨[], .nil⟩
  | cons part parts ih =>
    match made : entryAt logger d part with
    | .error f => exact .inr ⟨[], part, parts, [], f, rfl, .nil, made⟩
    | .ok entry =>
      obtain ⟨written, all⟩ | ⟨before, next, after, written, f, rfl, all, refused⟩ := ih
      · exact .inl ⟨entry :: written, .cons made all⟩
      · exact .inr ⟨part :: before, next, after, entry :: written, f, rfl, .cons made all, refused⟩

/-- A mapping is merged by writing its entries. -/
theorem mergeDocument_dict (hroot : d.part d.root = .dict parts) (logger path : Text)
    (c : Catalog) :
    (c.mergeDocument logger path d).outcome = (addAll logger d parts c).outcome := by
  simp only [mergeDocument, hroot]
  split
  · rfl
  · rfl

end Writing

section Merging

variable {tree : Tree} {logger path : Text} {d : Document} {f : CatalogFault}
  {written : List (Text × Entry)}

theorem merge_of_opens (h : Opens tree path d) (logger : Text) (c : Catalog) :
    c.merge tree logger path = c.mergeDocument logger (Path.clean path) d := by
  obtain ⟨content, read, opened⟩ := h
  simp only [merge, read, opened]

/-- What a merge that fails leaves behind. -/
theorem merge_of_fails (h : Fails tree logger path f written) (c : Catalog) :
    (c.merge tree logger path).outcome =
      ({ c with entries := c.entries.insertAll written }, some f) := by
  cases h with
  | badPath read =>
    simp only [merge, read]
    rfl
  | unopened read refused =>
    simp only [merge, read, refused]
    rfl
  | @notMapping d opens something unmapped =>
    rw [merge_of_opens opens]
    unfold mergeDocument
    split
    · next nothing => exact absurd nothing something
    · next parts mapping => exact absurd mapping (unmapped parts)
    · rfl
  | @entry d before after part written f opens mapping made refused =>
    calc (c.merge tree logger path).outcome
        = (addAll logger d (before ++ part :: after) c).outcome := by
          rw [merge_of_opens opens, mergeDocument_dict mapping]
      _ = (addAll logger d (part :: after)
            { c with entries := c.entries.insertAll written }).outcome :=
          addAll_append made (part :: after) c
      _ = _ := addAll_refused refused after _

/-- A merge of a document fails only for what the document is, or for one of its entries. -/
theorem exists_fails_of_opens {c : Catalog} (opens : Opens tree path d)
    (h : (c.mergeDocument logger (Path.clean path) d).fault = some f) :
    ∃ written, Fails tree logger path f written := by
  -- A merge has one fault, so it is enough to find out why this one fails.
  have failed {g : CatalogFault} {written : List (Text × Entry)}
      (fails : Fails tree logger path g written) : ∃ written, Fails tree logger path f written := by
    have fault := congrArg Prod.snd (merge_of_fails fails c)
    rw [merge_of_opens opens] at fault
    obtain rfl : f = g := Option.some.inj (h.symm.trans fault)
    exact ⟨written, fails⟩
  by_cases something : d.part d.root = .leaf (.scalar .null)
  · simp only [mergeDocument, something] at h
    cases h
  by_cases mapping : ∃ parts, d.part d.root = .dict parts
  · obtain ⟨parts, mapping⟩ := mapping
    obtain ⟨written, all⟩ | ⟨before, part, after, written, g, rfl, made, refused⟩ :=
      makes_or_refused logger d parts
    · have whole : (addAll logger d (parts ++ []) c).fault = none :=
        congrArg Prod.snd (addAll_append all [] c)
      rw [List.append_nil] at whole
      have merged := congrArg Prod.snd (mergeDocument_dict mapping logger (Path.clean path) c)
      cases h.symm.trans (merged.trans whole)
    · exact failed (.entry opens mapping made refused)
  · exact failed (.notMapping opens something fun parts is => mapping ⟨parts, is⟩)

/-- A merge fails for one of the reasons that there are. -/
theorem exists_fails {c : Catalog} (h : (c.merge tree logger path).fault = some f) :
    ∃ written, Fails tree logger path f written := by
  match read : tree.read (Path.clean path) with
  | .error .nullCharacter =>
    simp only [merge, read] at h
    obtain rfl := Option.some.inj h
    exact ⟨[], .badPath read⟩
  | .error .notFound | .error .isFolder | .error .notFolder | .error .nameTooLong =>
    simp only [merge, read] at h
    cases h
  | .ok content =>
    match opened : document (Path.clean path) content with
    | .error g =>
      simp only [merge, read, opened] at h
      obtain rfl := Option.some.inj h
      exact ⟨[], .unopened read opened⟩
    | .ok d =>
      have opens : Opens tree path d := ⟨content, read, opened⟩
      rw [merge_of_opens opens] at h
      exact exists_fails_of_opens opens h

theorem eq_nil_of_fails (h : Fails tree logger path f written) (whole : ¬ f.OfEntry) :
    written = [] := by
  cases h with
  | badPath | unopened | notMapping => rfl
  | entry _ _ _ refused => exact absurd (ofEntry_of_entryAt refused) whole

end Merging

/-- **What a failed merge changes.** A merge fails exactly when `Fails` says so, and then the
entries written before the fault are in the catalog, which is otherwise as it was. It is
wholly as it was exactly if the last of these entries under every key stood there before,
and always when the fault is not that of an entry. -/
theorem merge_unchanged_iff (tree : Tree) (logger path : Text) (c : Catalog) :
    let merged := c.merge tree logger path
    (∀ f, merged.fault = some f ↔ ∃ written, Fails tree logger path f written) ∧
    ∀ f written, Fails tree logger path f written →
      merged.value = { c with entries := c.entries.insertAll written } ∧
      (merged.value = c ↔ ∀ key entry,
        (Entries.ofList written).find? key = some entry → c.entries.find? key = some entry) ∧
      (¬ f.OfEntry → merged.value = c) := by
  intro merged
  constructor
  · intro f
    refine ⟨exists_fails, ?_⟩
    rintro ⟨written, fails⟩
    exact congrArg Prod.snd (merge_of_fails fails c)
  intro f written fails
  have value : merged.value = _ := congrArg Prod.fst (merge_of_fails fails c)
  refine ⟨value, ?_, fun whole => ?_⟩
  · rw [value, ← Entries.insertAll_eq_self_iff]
    exact ⟨congrArg Catalog.entries, fun same => by rw [same]⟩
  · rw [value, eq_nil_of_fails fails whole]
    rfl

/-- A document with a text, and behind it a pool whose candidates are a date. -/
def datedPool : Document :=
  .ofValue (.dict [(.ofText ['a'], .ofText ['x']),
    (.ofText ['b'], .dict [(.ofText "pool".toList, .date ⟨2020, 1, 1⟩)])])

/-- A tree with that document in its only file. -/
def datedTree : Tree := .folder [(['m'], .file (.document datedPool))]

/-- Merged where the text stands already, the document changes nothing, although it fails
after it has written the text. -/
theorem merge_unchanged_again :
    let c : Catalog := { path := ['m'], language := .german, entries := ⟨[(['a'], .text ['x'])]⟩ }
    let merged := c.merge datedTree [] ['m']
    merged.fault = some (.notIterable "datetime.date".toList) ∧ merged.value = c := by
  intro c merged
  obtain ⟨fault, unchanged⟩ := merge_unchanged_iff datedTree [] ['m'] c
  have opens : Opens datedTree ['m'] datedPool := ⟨.document datedPool, rfl, rfl⟩
  have mapping : datedPool.part datedPool.root = .dict ([(0, 1)] ++ [(2, 5)]) := rfl
  have fails : Fails datedTree [] ['m'] (.notIterable "datetime.date".toList)
      [(['a'], .text ['x'])] :=
    .entry opens mapping (.cons rfl .nil) rfl
  exact ⟨(fault _).2 ⟨_, fails⟩, ((unchanged _ _ fails).2.1).2 fun key entry there => there⟩

/-- Loaded into a catalog without entries, such a file fails and leaves the text behind. -/
theorem load_leaves_first :
    let c := Catalog.new "m.yml".toList .german
    let merged := c.load
      (.folder [("m.yml".toList, .file (.octets "a: x\nb:\n  pool: 2020-01-01\n".toUTF8))]) []
    merged.fault = some (.notIterable "datetime.date".toList) ∧
      c.entries.keys = [] ∧ merged.value.entries.keys = [['a']] := by
  decide +kernel

end Catalog

end Phrasebook
