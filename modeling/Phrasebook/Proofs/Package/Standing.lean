import Phrasebook.Proofs.Package.Loading
import Phrasebook.Proofs.Pool.Roll

/-!
# What stands in a package

Entries are a map: no key stands twice among them, and neither does a language among the catalogs of
a package. The cursors of pools are in range. All of this holds before anything is loaded, and every
way in which entries get into a package keeps it: writing an entry, merging a file, loading and
appending, whether they come to their end or stop at a fault (`Standing.load`, `Standing.append`).
-/

namespace Phrasebook

theorem Pool.inRange_ofList (policy : Policy) (candidates : List Text) (source : Option Draws) :
    (Pool.ofList policy candidates source).InRange := by
  have added (p : Pool) (h : p.InRange) : (candidates.foldl Pool.add p).InRange := by
    induction candidates generalizing p with
    | nil => exact h
    | cons c candidates ih => exact ih _ (p.inRange_add c)
  exact added _ (.inr rfl)

/-- The cursor of an entry that is a pool is in range. -/
def Entry.InRange : Entry → Prop
  | .text _ => True
  | .pool p => p.InRange

namespace Entries

/-- No key stands twice, and the cursors of pools are in range. -/
structure Standing (es : Entries) : Prop where
  keys : es.keys.Nodup
  inRange : ∀ e ∈ es.toList, e.2.InRange

theorem mem_put {key : Text} {entry : Entry} {e : Text × Entry} {es : List (Text × Entry)}
    (h : e ∈ put key entry es) : e.2 = entry ∨ e ∈ es := by
  induction es with
  | nil => exact .inl (congrArg Prod.snd (List.mem_singleton.1 h))
  | cons first es ih =>
    unfold put at h
    split at h
    · rcases List.mem_cons.1 h with rfl | h
      · exact .inl rfl
      · exact .inr (List.mem_cons_of_mem _ h)
    · rcases List.mem_cons.1 h with rfl | h
      · exact .inr List.mem_cons_self
      · exact (ih h).imp_right (List.mem_cons_of_mem _)

theorem standing_empty : ({} : Entries).Standing := ⟨List.nodup_nil, List.forall_mem_nil _⟩

theorem Standing.insert {es : Entries} (h : es.Standing) (key : Text) {entry : Entry}
    (inRange : entry.InRange) : (es.insert key entry).Standing := by
  refine ⟨nodup_keys_insert h.keys key entry, fun e he => ?_⟩
  rcases mem_put he with new | old
  · rwa [new]
  · exact h.inRange e old

theorem standing_ofList {writes : List (Text × Entry)} (h : ∀ w ∈ writes, w.2.InRange) :
    (ofList writes).Standing := by
  induction writes using List.reverseRecOn with
  | nil => exact standing_empty
  | append_singleton writes w ih =>
    obtain ⟨earlier, last⟩ := List.forall_mem_append.1 h
    rw [ofList_concat]
    exact (ih earlier).insert w.1 (last w List.mem_cons_self)

end Entries

namespace Catalog

variable {logger : Text} {c : Catalog}

theorem standing_new (path : Text) (language : Language) :
    (new path language).entries.Standing := by
  simp only [new]
  split
  · refine Entries.standing_ofList fun w hw => ?_
    obtain ⟨e, -, rfl⟩ := List.mem_map.1 hw
    trivial
  · exact Entries.standing_empty

theorem inRange_pool {key : Text} {d : Document} {parts : List (PartId × PartId)} {p : Pool}
    (h : (pool logger key d parts).result = .ok p) : p.InRange := by
  unfold pool at h
  split at h
  · cases h
  · split at h
    · cases h
    · obtain rfl := Except.ok.inj h
      exact .inr rfl
    · obtain rfl := Except.ok.inj h
      exact Pool.inRange_ofList _ _ _

/-- The entry that is made of a part of a file has its cursor in range. -/
theorem inRange_entryOf {key : Text} {d : Document} {i : PartId} {entry : Entry}
    (h : (entryOf logger key d i).result = .ok entry) : entry.InRange := by
  unfold entryOf at h
  split at h
  · next parts _ =>
    cases made : (pool logger key d parts).result with
    | error f =>
      simp only [made] at h
      cases h
    | ok p =>
      simp only [made] at h
      obtain rfl := Except.ok.inj h
      exact inRange_pool made
  · cases wording : d.wording i with
    | error f =>
      simp only [wording] at h
      cases h
    | ok t =>
      simp only [wording] at h
      obtain rfl := Except.ok.inj h
      trivial

theorem standing_addAll {d : Document} {parts : List (PartId × PartId)} (h : c.entries.Standing) :
    (addAll logger d parts c).value.entries.Standing := by
  induction parts generalizing c with
  | nil => exact h
  | cons part parts ih =>
    obtain ⟨k, v⟩ := part
    simp only [addAll]
    split
    · exact h
    · next key _ =>
      split
      · exact h
      · next entry made =>
        exact ih (h.insert key (inRange_entryOf made))

theorem standing_merge (tree : Tree) (logger : Text) (h : c.entries.Standing) (path : Text) :
    (c.merge tree logger path).value.entries.Standing := by
  have document (path : Text) (d : Document) :
      (c.mergeDocument logger path d).value.entries.Standing := by
    unfold mergeDocument
    split
    · exact h
    · dsimp only
      split <;> exact standing_addAll h
    · exact h
  unfold merge
  dsimp only
  split
  · exact h
  · exact h
  · split
    · exact h
    · exact document _ _

end Catalog

namespace Package

variable {tree : Tree} {logger : Text} {p : Package}

/-- No language stands twice, and what stands in the catalogs is in order. -/
structure Standing (p : Package) : Prop where
  languages : p.languages.Nodup
  entries : ∀ e ∈ p.catalogs, e.2.entries.Standing

theorem standing_new (directory name : Text) (fallback : Option Language) :
    (new directory name fallback).Standing := ⟨List.nodup_nil, List.forall_mem_nil _⟩

theorem mem_putCatalog {language : Language} {c : Catalog} {e : Language × Catalog}
    {cs : List (Language × Catalog)} (h : e ∈ putCatalog language c cs) : e.2 = c ∨ e ∈ cs := by
  induction cs with
  | nil => exact .inl (congrArg Prod.snd (List.mem_singleton.1 h))
  | cons first cs ih =>
    unfold putCatalog at h
    split at h
    · rcases List.mem_cons.1 h with rfl | h
      · exact .inl rfl
      · exact .inr (List.mem_cons_of_mem _ h)
    · rcases List.mem_cons.1 h with rfl | h
      · exact .inr List.mem_cons_self
      · exact (ih h).imp_right (List.mem_cons_of_mem _)

theorem Standing.withCatalog (h : p.Standing) (language : Language) {c : Catalog}
    (hc : c.entries.Standing) : (p.withCatalog language c).Standing := by
  refine ⟨?_, fun e he => ?_⟩
  · rw [languages_withCatalog]
    split
    · exact h.languages
    · next new => exact List.nodup_append.2 ⟨h.languages, List.pairwise_singleton _ _,
        fun l hl l' hl' same => new (List.mem_singleton.1 hl' ▸ same ▸ hl)⟩
  · rcases mem_putCatalog he with new | old
    · rwa [new]
    · exact h.entries e old

theorem Standing.catalog (h : p.Standing) {language : Language} {c : Catalog}
    (found : p.catalog? language = some c) : c.entries.Standing := by
  obtain ⟨before, later, split, -⟩ := List.lookup_eq_some_iff.1 found
  exact h.entries (language, c) (split ▸ by simp)

theorem Standing.loadAll (h : p.Standing) (members : List Member) :
    (p.loadAll tree logger members).value.Standing := by
  induction members generalizing p with
  | nil => exact h
  | cons m rest ih =>
    simp only [Package.loadAll]
    split
    · exact h
    · exact ih (h.withCatalog _ (Catalog.standing_merge tree logger (Catalog.standing_new _ _) _))

theorem Standing.appendAll (h : p.Standing) (members : List Member) :
    (p.appendAll tree logger members).value.Standing := by
  induction members generalizing p with
  | nil => exact h
  | cons m rest ih =>
    simp only [Package.appendAll]
    split
    · exact ih h
    · next c found =>
      have merged := h.withCatalog m.language
        (Catalog.standing_merge tree logger (h.catalog found) m.path)
      split
      · exact merged
      · exact ih merged

theorem Standing.withMembers (h : p.Standing) {packageName : Text}
    {act : List Member → Merged Package} (kept : ∀ members, (act members).value.Standing) :
    (p.withMembers tree logger packageName act).value.Standing := by
  unfold Package.withMembers
  dsimp only
  split
  · exact h
  · exact kept _

theorem Standing.load (h : p.Standing) (tree : Tree) (logger : Text) :
    (p.load tree logger).value.Standing := h.withMembers h.loadAll

theorem Standing.append (h : p.Standing) (tree : Tree) (logger packageName : Text) :
    (p.append tree logger packageName).value.Standing := h.withMembers h.appendAll

end Package

end Phrasebook
