import Phrasebook.Package
import Phrasebook.Proofs.Log.Output

/-!
# What packages and resolvers report

A package that meets an unreadable file, an unknown language or an empty pool says so and goes on;
what it cannot go on from is a fault, which it does not report. A resolver says what it refuses.
So whatever the files and the templates are, all that is recorded on the way goes to the logger that
was handed in, and nothing of it is an error.
-/

namespace Phrasebook

open Log (Mild)

namespace Catalog

variable {tree : Tree} {logger : Text}

theorem warn_mild (logger message : Text) :
    (warn logger message).logger = logger ∧ (warn logger message).level < Log.error :=
  ⟨rfl, Log.warning_lt_error⟩

theorem policy_mild {key : Text} {d : Document} {parts : List (PartId × PartId)} {p : Policy}
    {rs : List Log.Record} (h : policy logger key d parts = .ok (p, rs)) : Mild logger rs := by
  unfold policy at h
  cases found : member? d "type" parts with
  | none =>
    rw [found] at h
    cases h
    exact .nil
  | some name =>
    rw [found] at h
    dsimp only at h
    cases named : namedPolicy? d name with
    | error f =>
      rw [named] at h
      cases h
    | ok found =>
      rw [named] at h
      cases found with
      | some q =>
        cases h
        exact .nil
      | none =>
        -- the warning quotes the name, which may have no spelling
        cases spelled : d.literal name with
        | error f =>
          rw [spelled] at h
          cases h
        | ok t =>
          rw [spelled] at h
          cases h
          exact .one (warn_mild _ _)

theorem pool_mild (key : Text) (d : Document) (parts : List (PartId × PartId)) :
    Mild logger (pool logger key d parts).records := by
  unfold pool
  cases chosen : policy logger key d parts with
  | error f => exact .nil
  | ok found =>
    obtain ⟨p, rs⟩ := found
    have mild : Mild logger rs := policy_mild chosen
    cases ((member? d "pool" parts).map (candidates d)).getD (.ok []) with
    | error f => exact mild
    | ok texts =>
      cases texts with
      | nil => exact mild.append (.one (warn_mild _ _))
      | cons t ts => exact mild

theorem entryOf_mild (key : Text) (d : Document) (i : PartId) :
    Mild logger (entryOf logger key d i).records := by
  unfold entryOf
  split
  · exact pool_mild _ _ _
  · exact .nil

theorem addAll_mild (d : Document) (parts : List (PartId × PartId)) (c : Catalog) :
    Mild logger (addAll logger d parts c).records := by
  induction parts generalizing c with
  | nil => exact .nil
  | cons part parts ih =>
    obtain ⟨k, v⟩ := part
    unfold addAll
    cases d.spelling k with
    | error f => exact .nil
    | ok key =>
      have entry : Mild logger (entryOf logger key d v).records := entryOf_mild key d v
      dsimp only
      cases (entryOf logger key d v).result with
      | error f => exact entry
      | ok e => exact entry.append (ih (c.add key e))

theorem mergeDocument_mild (path : Text) (d : Document) (c : Catalog) :
    Mild logger (c.mergeDocument logger path d).records := by
  unfold mergeDocument
  split
  · exact .nil
  · next parts _ =>
    have entries : Mild logger (addAll logger d parts c).records := addAll_mild d parts c
    dsimp only
    cases (addAll logger d parts c).fault with
    | some f => exact entries
    | none => exact entries.append (.one ⟨rfl, Log.debug_lt_error⟩)
  · exact .nil

theorem merge_mild (path : Text) (c : Catalog) :
    Mild logger (c.merge tree logger path).records := by
  unfold merge
  dsimp only
  split
  · exact .nil
  · exact .one (warn_mild _ _)
  · next content _ =>
    cases document (Path.clean path) content with
    | error f => exact .nil
    | ok d => exact mergeDocument_mild _ d c

end Catalog

namespace Package

variable {tree : Tree} {logger : Text} {p : Package}

theorem membersOf_mild (directory packageName : Text) (ts : List (Text × Tree)) :
    Mild logger (membersOf logger directory packageName ts).2 := by
  induction ts with
  | nil => exact .nil
  | cons t ts ih =>
    obtain ⟨name, t⟩ := t
    cases t with
    | folder _ => exact ih
    | file content =>
      unfold membersOf
      cases abbreviationIn? packageName name with
      | none => exact ih
      | some abbreviation =>
        dsimp only
        cases Language.ofAbbreviation? abbreviation with
        | some language => exact ih
        | none => exact ih.cons (Catalog.warn_mild _ _)

theorem folder_mild (p : Package) : Mild logger (p.folder tree logger).records := by
  unfold folder
  split
  · exact .nil
  · exact .one (Catalog.warn_mild _ _)
  · exact .nil

theorem scan_mild (p : Package) (packageName : Text) :
    Mild logger (p.scan tree logger packageName).records := by
  unfold scan
  dsimp only
  split
  · exact folder_mild p
  · exact folder_mild p
  · exact membersOf_mild _ _ _

theorem withMembers_mild (p : Package) (packageName : Text) {act : List Member → Merged Package}
    (acts : ∀ members, Mild logger (act members).records) :
    Mild logger (p.withMembers tree logger packageName act).records := by
  have scanned : Mild logger (p.scan tree logger packageName).records := scan_mild p packageName
  unfold withMembers
  dsimp only
  split
  · exact scanned
  · next members _ => exact scanned.append (acts members)

theorem loadAll_mild (members : List Member) (p : Package) :
    Mild logger (p.loadAll tree logger members).records := by
  induction members generalizing p with
  | nil => exact .nil
  | cons m members ih =>
    have loaded : Mild logger ((Catalog.new m.path m.language).load tree logger).records :=
      Catalog.merge_mild _ _
    unfold loadAll
    dsimp only
    split
    · exact loaded
    · exact loaded.append ((ih _).cons ⟨rfl, Log.info_lt_error⟩)

theorem load_mild (p : Package) : Mild logger (p.load tree logger).records :=
  withMembers_mild p p.name fun members => loadAll_mild members p

theorem appendAll_mild (members : List Member) (p : Package) :
    Mild logger (p.appendAll tree logger members).records := by
  induction members generalizing p with
  | nil => exact .nil
  | cons m members ih =>
    unfold appendAll
    cases p.catalog? m.language with
    | none => exact (ih p).cons (Catalog.warn_mild _ _)
    | some c =>
      have merged : Mild logger (c.merge tree logger m.path).records := Catalog.merge_mild _ _
      dsimp only
      split
      · exact merged
      · exact merged.append (ih _)

theorem append_mild (p : Package) (packageName : Text) :
    Mild logger (p.append tree logger packageName).records :=
  withMembers_mild p packageName fun members => appendAll_mild members p

end Package

theorem Outcome.records_mild {σ ι lang α : Type} (o : Outcome σ ι lang α) (logger : Text) :
    Mild logger (o.records logger) := by
  intro r hr
  obtain ⟨e, -, noted⟩ := List.mem_filterMap.1 hr
  obtain ⟨n, -, rfl⟩ := Option.map_eq_some_iff.1 noted
  constructor
  · rfl
  · unfold Note.record
    dsimp only
    split
    · exact Log.debug_lt_error
    · exact Log.warning_lt_error

end Phrasebook
