import Phrasebook.Package
import Phrasebook.Proofs.Catalog.History

/-!
# Loading the files of a package

Loading reads each file into a fresh catalog and puts that into the package when it is complete,
so whatever comes later, a language has the catalog of the last file that was loaded for it or
the one it had (`Renewed`). Appending writes into the catalogs that are there (`Extended`). Both go
over the files in the order of the scan and stop at the first fault, so what holds of a whole
pass holds of the files before that (`loading_whole_files`).
-/

namespace Phrasebook

namespace Catalog

variable {tree : Tree} {logger : Text}

/-- What is recorded about a file, and whether it fails, does not depend on the catalog. -/
theorem addAll_report (logger : Text) (d : Document) (parts : List (PartId × PartId))
    (c c' : Catalog) :
    (addAll logger d parts c).records = (addAll logger d parts c').records ∧
      (addAll logger d parts c).fault = (addAll logger d parts c').fault := by
  induction parts generalizing c c' with
  | nil => exact ⟨rfl, rfl⟩
  | cons part parts ih =>
    obtain ⟨k, v⟩ := part
    simp only [addAll]
    cases d.spelling k with
    | error f => exact ⟨rfl, rfl⟩
    | ok key =>
      dsimp only
      cases (entryOf logger key d v).result with
      | error f => exact ⟨rfl, rfl⟩
      | ok entry =>
        obtain ⟨records, fault⟩ := ih (c.add key entry) (c'.add key entry)
        exact ⟨congrArg ((entryOf logger key d v).records ++ ·) records, fault⟩

theorem mergeDocument_report (path : Text) (d : Document) (c c' : Catalog) :
    (c.mergeDocument logger path d).records = (c'.mergeDocument logger path d).records ∧
      (c.mergeDocument logger path d).fault = (c'.mergeDocument logger path d).fault := by
  simp only [mergeDocument]
  split
  · exact ⟨rfl, rfl⟩
  · next parts _ =>
    obtain ⟨records, fault⟩ := addAll_report logger d parts c c'
    rw [← fault]
    cases (addAll logger d parts c).fault with
    | some f => exact ⟨records, fault⟩
    | none => exact ⟨congrArg (· ++ _) records, rfl⟩
  · exact ⟨rfl, rfl⟩

theorem merge_report (path : Text) (c c' : Catalog) :
    (c.merge tree logger path).records = (c'.merge tree logger path).records ∧
      (c.merge tree logger path).fault = (c'.merge tree logger path).fault := by
  cases read : tree.read (Path.clean path) with
  | error f =>
    simp only [merge, read]
    cases f <;> exact ⟨rfl, rfl⟩
  | ok content =>
    simp only [merge, read]
    cases document (Path.clean path) content with
    | error f => exact ⟨rfl, rfl⟩
    | ok d => exact mergeDocument_report (Path.clean path) d c c'

end Catalog

namespace Package

variable {tree : Tree} {logger : Text} {p after : Package}

/-- The languages in the order in which they were first loaded. -/
def languages (p : Package) : List Language := p.catalogs.map Prod.fst

section Catalogs

variable (language l : Language) (c : Catalog)

theorem lookup_putCatalog (cs : List (Language × Catalog)) :
    (putCatalog language c cs).lookup l = if l = language then some c else cs.lookup l := by
  induction cs with
  | nil =>
    by_cases h : l = language
    · simp [putCatalog, h]
    · simp [putCatalog, List.lookup_cons, h, beq_eq_false_iff_ne.2 h]
  | cons e rest ih =>
    obtain ⟨k, d⟩ := e
    by_cases hk : k = language
    · subst hk
      by_cases h : l = k
      · simp [putCatalog, h]
      · simp [putCatalog, List.lookup_cons, h, beq_eq_false_iff_ne.2 h]
    · by_cases h : l = k
      · subst h
        simp [putCatalog, hk]
      · simp [putCatalog, hk, List.lookup_cons, beq_eq_false_iff_ne.2 h, ih]

theorem languages_putCatalog (cs : List (Language × Catalog)) :
    (putCatalog language c cs).map Prod.fst =
      if language ∈ cs.map Prod.fst then cs.map Prod.fst else cs.map Prod.fst ++ [language] := by
  induction cs with
  | nil => simp [putCatalog]
  | cons e rest ih =>
    obtain ⟨k, d⟩ := e
    by_cases hk : k = language
    · simp [putCatalog, hk]
    · have hk' : ¬ language = k := fun same => hk same.symm
      by_cases further : language ∈ rest.map Prod.fst
      · simp only [putCatalog, hk, if_false, List.map_cons, ih, List.mem_cons, further, or_true,
          if_true]
      · simp only [putCatalog, hk, if_false, List.map_cons, ih, List.mem_cons, further, hk',
          or_self]
        rfl

theorem catalog?_withCatalog (p : Package) :
    (p.withCatalog language c).catalog? l = if l = language then some c else p.catalog? l :=
  lookup_putCatalog language l c p.catalogs

theorem languages_withCatalog (p : Package) :
    (p.withCatalog language c).languages =
      if language ∈ p.languages then p.languages else p.languages ++ [language] :=
  languages_putCatalog language c p.catalogs

theorem mem_languages {language : Language} {c : Catalog} (h : p.catalog? language = some c) :
    language ∈ p.languages := by
  obtain ⟨before, later, split, -⟩ := List.lookup_eq_some_iff.1 h
  rw [languages, split]
  simp

end Catalogs

namespace Member

/-- A file read into a fresh catalog. -/
def load (tree : Tree) (logger : Text) (m : Member) : Merged Catalog :=
  (Catalog.new m.path m.language).load tree logger

/-- The catalog of a file that is complete: what its language starts with, and all that the file
writes. -/
def catalog (tree : Tree) (logger : Text) (m : Member) : Catalog :=
  { path := Path.clean m.path, language := m.language
    entries := .ofList (Catalog.seeds m.language ++
      Catalog.fileWrites tree logger (Path.clean m.path)) }

theorem load_of_no_fault {m : Member} (h : (m.load tree logger).fault = none) :
    (m.load tree logger).value = m.catalog tree logger := by
  have merged : (m.load tree logger).value = _ := Catalog.merge_of_no_fault h
  rw [merged, Catalog.entries_new]
  exact congrArg (Catalog.mk _ _) (Entries.insertAll_append {} (Catalog.seeds m.language) _)

end Member

/-- The last of some files in a language. -/
def lastIn (language : Language) (ms : List Member) : Option Member :=
  ms.reverse.find? fun m => m.language == language

theorem lastIn_cons (language : Language) (m : Member) (ms : List Member) :
    lastIn language (m :: ms) =
      (lastIn language ms).or (if language = m.language then some m else none) := by
  unfold lastIn
  rw [List.reverse_cons, List.find?_append]
  by_cases h : language = m.language
  · simp [h]
  · simp [h, Ne.symm h]

/-- A package after some files were loaded. Each of their languages has the whole catalog of its
last file, and every other language has what it had. New languages stand behind the others in the
order in which they were met, and all else is as it was. -/
structure Renewed (tree : Tree) (logger : Text) (done : List Member) (p after : Package) :
    Prop where
  catalog : ∀ language, after.catalog? language =
    ((lastIn language done).map (Member.catalog tree logger)).or (p.catalog? language)
  languages : after.languages =
    p.languages ++ ((done.map Member.language).filter (· ∉ p.languages)).eraseDups
  same : { after with catalogs := p.catalogs } = p

theorem Renewed.refl (p : Package) : Renewed tree logger [] p p :=
  ⟨fun _ => rfl, by simp, rfl⟩

theorem Renewed.cons {m : Member} {done : List Member}
    (renewed : Renewed tree logger done
      (p.withCatalog m.language (m.catalog tree logger)) after) :
    Renewed tree logger (m :: done) p after := by
  have untouched : { after with catalogs := p.catalogs } = p :=
    congrArg (fun q => { q with catalogs := p.catalogs }) renewed.same
  refine ⟨fun language => ?_, ?_, untouched⟩
  · rw [renewed.catalog, catalog?_withCatalog, lastIn_cons]
    cases lastIn language done with
    | some last => rfl
    | none =>
      by_cases h : language = m.language
      · simp [h]
      · simp [h]
  · rw [renewed.languages, languages_withCatalog]
    by_cases old : m.language ∈ p.languages
    · simp [old]
    · have fresh : ∀ l, decide (l ∉ p.languages ++ [m.language]) =
          (!(l == m.language) && decide (l ∉ p.languages)) := by
        intro l
        by_cases same : l = m.language <;> simp [same]
      rw [if_neg old, List.map_cons, List.filter_cons_of_pos (by simpa using old),
        List.eraseDups_cons, List.filter_filter, List.append_assoc]
      simp only [fresh]
      rfl

/-- Loading some files gets to their end, or to the first that fails. -/
theorem loadAll_renews (tree : Tree) (logger : Text) (members : List Member) (p : Package) :
    let made := p.loadAll tree logger members
    ∃ done, Renewed tree logger done p made.value ∧
      (∀ m ∈ done, (m.load tree logger).fault = none) ∧
      ((made.fault = none ∧ members = done) ∨
        ∃ m left f, made.fault = some f ∧ members = done ++ m :: left ∧
          (m.load tree logger).fault = some f) := by
  induction members generalizing p with
  | nil => exact ⟨[], .refl p, List.forall_mem_nil _, .inl ⟨rfl, rfl⟩⟩
  | cons m rest ih =>
    cases fault : (m.load tree logger).fault with
    | some f =>
      have made : p.loadAll tree logger (m :: rest) =
          { value := p, records := (m.load tree logger).records, fault := some f } := by
        unfold Member.load at fault
        simp only [loadAll, fault]
        rfl
      rw [made]
      exact ⟨[], .refl p, List.forall_mem_nil _, .inr ⟨m, rest, f, rfl, rfl, fault⟩⟩
    | none =>
      let p' := p.withCatalog m.language (m.catalog tree logger)
      have made : (p.loadAll tree logger (m :: rest)).outcome =
          (p'.loadAll tree logger rest).outcome := by
        have value := Member.load_of_no_fault fault
        unfold Member.load at fault value
        simp only [loadAll, fault, value]
        rfl
      obtain ⟨value, same⟩ := Prod.mk.inj made
      obtain ⟨done, renewed, clean, ended⟩ := ih p'
      dsimp only
      rw [value, same]
      refine ⟨m :: done, renewed.cons, List.forall_mem_cons.2 ⟨fault, clean⟩, ?_⟩
      obtain ⟨none, rfl⟩ | ⟨m', left, f, some, rfl, failed⟩ := ended
      · exact .inl ⟨none, rfl⟩
      · exact .inr ⟨m', left, f, some, rfl, failed⟩

/-- A folder with two German files and a French one that holds no mapping. -/
def germanTwice : Tree := .folder [
  (['a'], .file (.document (.ofValue (.dict [(.ofText ['x'], .ofText ['1'])])))),
  (['b'], .file (.document (.ofValue (.dict [(.ofText ['y'], .ofText ['2'])])))),
  (['c'], .file (.document (.ofValue (.ofText ['z']))))]

/-- The second German file is all there is of German when the French one fails. -/
example :
    let made := (new ['.'] ['p'] none).loadAll germanTwice []
      [⟨['a'], ['a'], .german⟩, ⟨['b'], ['b'], .german⟩, ⟨['c'], ['c'], .french⟩]
    made.fault = some (.notMapping ['c'] "str".toList) ∧
      made.value.catalogs.map (fun e => (e.1, e.2.entries.keys)) = [(.german, [['y']])] := by
  decide +kernel

namespace Member

/-- The warning about a file whose language is not loaded. -/
def unloaded (logger : Text) (m : Member) : Log.Record :=
  Catalog.warn logger ("⚠  ".toList ++ m.name ++ " targets language ".toList ++
    m.language.abbreviation ++ " which is not loaded; skipped".toList)

/-- What is recorded about a file that is appended: what its merge records, or the one warning. -/
def report (tree : Tree) (logger : Text) (p : Package) (m : Member) : List Log.Record :=
  match p.catalog? m.language with
  | none => [m.unloaded logger]
  | some c => (c.merge tree logger m.path).records

/-- Why a file cannot be appended to its end. A file whose language is not loaded can. -/
def faultIn (tree : Tree) (logger : Text) (p : Package) (m : Member) : Option CatalogFault :=
  (p.catalog? m.language).bind fun c => (c.merge tree logger m.path).fault

/-- What becomes of a file depends only on the languages that are loaded. -/
theorem report_congr {p p' : Package}
    (h : ∀ language, (p'.catalog? language).isSome = (p.catalog? language).isSome) (m : Member) :
    m.report tree logger p' = m.report tree logger p ∧
      m.faultIn tree logger p' = m.faultIn tree logger p := by
  have loaded := h m.language
  unfold report faultIn
  cases found : p.catalog? m.language with
  | none =>
    have missing : p'.catalog? m.language = none := by simpa [found] using loaded
    rw [missing]
    exact ⟨rfl, rfl⟩
  | some c =>
    rw [found] at loaded
    obtain ⟨c', found'⟩ := Option.isSome_iff_exists.1 loaded
    rw [found']
    exact Catalog.merge_report m.path c' c

end Member

/-- What the files of a language write, one file after the other. -/
def writesIn (tree : Tree) (logger : Text) (language : Language) (ms : List Member) :
    List (Text × Entry) :=
  (ms.filter fun m => m.language == language).flatMap fun m =>
    Catalog.fileWrites tree logger m.path

/-- A package after some files were appended. Each language that is loaded has the writes of its
files in their order on top of what it had, and all else is as it was. -/
structure Extended (tree : Tree) (logger : Text) (done : List Member) (p after : Package) :
    Prop where
  catalog : ∀ language, after.catalog? language = (p.catalog? language).map fun c =>
    { c with entries := c.entries.insertAll (writesIn tree logger language done) }
  languages : after.languages = p.languages
  same : { after with catalogs := p.catalogs } = p

theorem Extended.refl (p : Package) : Extended tree logger [] p p := by
  refine ⟨fun language => ?_, rfl, rfl⟩
  cases p.catalog? language <;> rfl

theorem Extended.cons_unloaded {m : Member} {done : List Member}
    (missing : p.catalog? m.language = none) (extended : Extended tree logger done p after) :
    Extended tree logger (m :: done) p after := by
  refine ⟨fun language => ?_, extended.languages, extended.same⟩
  rw [extended.catalog]
  by_cases same : m.language = language
  · rw [← same, missing]
    rfl
  · simp [writesIn, same]

theorem Extended.cons_loaded {m : Member} {done : List Member} {c : Catalog}
    (found : p.catalog? m.language = some c)
    (extended : Extended tree logger done (p.withCatalog m.language
      { c with entries := c.entries.insertAll (Catalog.fileWrites tree logger m.path) }) after) :
    Extended tree logger (m :: done) p after := by
  have untouched : { after with catalogs := p.catalogs } = p :=
    congrArg (fun q => { q with catalogs := p.catalogs }) extended.same
  refine ⟨fun language => ?_, ?_, untouched⟩
  · rw [extended.catalog, catalog?_withCatalog]
    by_cases same : language = m.language
    · subst same
      simp [writesIn, found, Entries.insertAll_append]
    · simp [writesIn, same, Ne.symm same]
  · rw [extended.languages, languages_withCatalog, if_pos (mem_languages found)]

/-- A file has failed: what it wrote before its fault is in the catalog of its language. -/
def Torn (tree : Tree) (logger : Text) (m : Member) (f : CatalogFault) (p after : Package) : Prop :=
  ∃ c written, p.catalog? m.language = some c ∧ Catalog.Fails tree logger m.path f written ∧
    after = p.withCatalog m.language { c with entries := c.entries.insertAll written }

/-- Appending some files gets to their end, or to the first that fails. -/
theorem appendAll_extends (tree : Tree) (logger : Text) (members : List Member) (p : Package) :
    let made := p.appendAll tree logger members
    ∃ done mid, Extended tree logger done p mid ∧
      (∀ m ∈ done, m.faultIn tree logger p = none) ∧
      ((made.fault = none ∧ members = done ∧ made.value = mid ∧
          made.records = done.flatMap (Member.report tree logger p)) ∨
        ∃ m left f, made.fault = some f ∧ members = done ++ m :: left ∧
          Torn tree logger m f mid made.value ∧
          made.records = (done ++ [m]).flatMap (Member.report tree logger p)) := by
  induction members generalizing p with
  | nil => exact ⟨[], p, .refl p, List.forall_mem_nil _, .inl ⟨rfl, rfl, rfl, rfl⟩⟩
  | cons m rest ih =>
    cases found : p.catalog? m.language with
    | none =>
      obtain ⟨done, mid, extended, clean, ended⟩ := ih p
      have fine : m.faultIn tree logger p = none := by rw [Member.faultIn, found]; rfl
      have report : m.report tree logger p = [m.unloaded logger] := by rw [Member.report, found]
      refine ⟨m :: done, mid, extended.cons_unloaded found,
        List.forall_mem_cons.2 ⟨fine, clean⟩, ?_⟩
      simp only [appendAll, found, List.cons_append, List.flatMap_cons, report]
      obtain ⟨none, rfl, value, records⟩ | ⟨m', left, f, some, rfl, torn, records⟩ := ended
      · exact .inl ⟨none, rfl, value, congrArg (_ :: ·) records⟩
      · exact .inr ⟨m', left, f, some, rfl, torn, congrArg (_ :: ·) records⟩
    | some c =>
      have report : m.report tree logger p = (c.merge tree logger m.path).records := by
        rw [Member.report, found]
      cases fault : (c.merge tree logger m.path).fault with
      | some f =>
        obtain ⟨written, fails⟩ := Catalog.exists_fails fault
        have value := congrArg Prod.fst (Catalog.merge_of_fails fails c)
        simp only [Merged.outcome] at value
        refine ⟨[], p, .refl p, List.forall_mem_nil _, .inr ⟨m, rest, f, ?_⟩⟩
        simp only [appendAll, found, fault, value, List.nil_append, List.flatMap_singleton, report]
        exact ⟨trivial, trivial, ⟨c, written, found, fails, rfl⟩, trivial⟩
      | none =>
        let p' := p.withCatalog m.language
          { c with entries := c.entries.insertAll (Catalog.fileWrites tree logger m.path) }
        have value := Catalog.merge_of_no_fault fault
        have loaded (language : Language) :
            (p'.catalog? language).isSome = (p.catalog? language).isSome := by
          rw [catalog?_withCatalog]
          split
          · next same => rw [same, found]; rfl
          · rfl
        have reports : Member.report tree logger p' = Member.report tree logger p :=
          funext fun m => (Member.report_congr loaded m).1
        have faults : Member.faultIn tree logger p' = Member.faultIn tree logger p :=
          funext fun m => (Member.report_congr loaded m).2
        have fine : m.faultIn tree logger p = none := by rw [Member.faultIn, found]; exact fault
        obtain ⟨done, mid, extended, clean, ended⟩ := ih p'
        rw [reports] at ended
        refine ⟨m :: done, mid, extended.cons_loaded found,
          List.forall_mem_cons.2 ⟨fine, fun m' h => faults ▸ clean m' h⟩, ?_⟩
        simp only [appendAll, found, fault, value, List.cons_append, List.flatMap_cons, report]
        obtain ⟨none, rfl, value, records⟩ | ⟨m', left, f, some, rfl, torn, records⟩ := ended
        · exact .inl ⟨none, rfl, value, congrArg (_ ++ ·) records⟩
        · exact .inr ⟨m', left, f, some, rfl, torn, congrArg (_ ++ ·) records⟩

theorem withMembers_error {packageName : Text} {f : CatalogFault}
    (h : (p.scan tree logger packageName).result = .error f) (act : List Member → Merged Package) :
    p.withMembers tree logger packageName act =
      { value := p, records := (p.scan tree logger packageName).records, fault := some f } := by
  simp only [withMembers, h]

theorem withMembers_ok {packageName : Text} {members : List Member}
    (h : (p.scan tree logger packageName).result = .ok members)
    (act : List Member → Merged Package) :
    p.withMembers tree logger packageName act =
      { act members with
        records := (p.scan tree logger packageName).records ++ (act members).records } := by
  simp only [withMembers, h]

theorem Torn.languages {m : Member} {f : CatalogFault} (torn : Torn tree logger m f p after) :
    after.languages = p.languages := by
  obtain ⟨c, written, found, -, rfl⟩ := torn
  rw [languages_withCatalog, if_pos (mem_languages found)]

/-- **A language has a whole file or what it had.** Loading goes over the files of the scan in their
order, to the end or to the first that fails. Each language of a file before that has the catalog
of its last such file, with nothing of what the package held before, and every other language
keeps its catalog; new languages stand behind the others in the order in which they were met.
Appending changes no language that is not loaded and loads none. The files of a language that is
loaded are merged in their order, to the end or to the first that fails, which leaves what it wrote
before its fault; every other file on the way gives one warning and nothing else. If the folder
cannot be looked at nothing changes. -/
theorem loading_whole_files (tree : Tree) (logger : Text) (p : Package) :
    (let made := p.load tree logger
    match (p.scan tree logger p.name).result with
    | .error f => made.value = p ∧ made.fault = some f
    | .ok members => ∃ done, Renewed tree logger done p made.value ∧
      (∀ m ∈ done, (m.load tree logger).fault = none) ∧
      ((made.fault = none ∧ members = done) ∨
        ∃ m left f, made.fault = some f ∧ members = done ++ m :: left ∧
          (m.load tree logger).fault = some f)) ∧
    ∀ packageName,
      let found := p.scan tree logger packageName
      let made := p.append tree logger packageName
      made.value.languages = p.languages ∧
      match found.result with
      | .error f => made.value = p ∧ made.fault = some f
      | .ok members => ∃ done mid, Extended tree logger done p mid ∧
        (∀ m ∈ done, m.faultIn tree logger p = none) ∧
        ((made.fault = none ∧ members = done ∧ made.value = mid ∧
            made.records = found.records ++ done.flatMap (Member.report tree logger p)) ∨
          ∃ m left f, made.fault = some f ∧ members = done ++ m :: left ∧
            Torn tree logger m f mid made.value ∧
            made.records =
              found.records ++ (done ++ [m]).flatMap (Member.report tree logger p)) := by
  constructor
  · intro made
    cases scanned : (p.scan tree logger p.name).result with
    | error f =>
      have stopped : made = _ := withMembers_error scanned _
      rw [stopped]
      exact ⟨rfl, rfl⟩
    | ok members =>
      have went : made = _ := withMembers_ok scanned _
      rw [went]
      exact loadAll_renews tree logger members p
  · intro packageName found made
    cases scanned : found.result with
    | error f =>
      have stopped : made = _ := withMembers_error scanned _
      rw [stopped]
      exact ⟨rfl, rfl, rfl⟩
    | ok members =>
      have went : made = _ := withMembers_ok scanned _
      obtain ⟨done, mid, extended, clean, ended⟩ :=
        appendAll_extends tree logger members p
      rw [went]
      obtain ⟨none, rfl, value, records⟩ | ⟨m, left, f, some, rfl, torn, records⟩ := ended
      · exact ⟨(congrArg languages value).trans extended.languages, members, mid, extended, clean,
          .inl ⟨none, rfl, value, congrArg (found.records ++ ·) records⟩⟩
      · exact ⟨torn.languages.trans extended.languages, done, mid, extended, clean,
          .inr ⟨m, left, f, some, rfl, torn, congrArg (found.records ++ ·) records⟩⟩

end Package

end Phrasebook
