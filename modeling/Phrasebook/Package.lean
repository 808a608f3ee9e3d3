import Phrasebook.Catalog
import Phrasebook.Expansion.Resolver
import Phrasebook.Markup

/-!
# Packages

A package is the files of a folder that share a name, one for each language. A file belongs
to the package `name` if its name is `name`, an underscore, the abbreviation of a language
and the suffix `.yml`, without regard to case. A key is looked up in the catalog of a language
and then in that of the fallback language, if there is one. Strings are expanded with the
package as their store; only what is read as a finished string gets its colours.
-/

namespace Phrasebook

/-- The catalogs of a package in the order in which their languages were first loaded. -/
structure Package where
  directory : Text
  name : Text
  fallback : Option Language := none
  catalogs : List (Language × Catalog) := []

namespace Package

/-- A package before anything is loaded. -/
def new (directory name : Text) (fallback : Option Language) : Package :=
  { directory := Path.clean directory, name, fallback }

/-- The suffix of the files of a package. -/
def suffix : Text := ".yml".toList

/-- The abbreviation in the name of a file that belongs to a package, whatever it stands
for. Both names are compared in their small forms. -/
def abbreviationIn? (packageName fileName : Text) : Option Text :=
  let base := Text.lower packageName
  let file := Text.lower fileName
  if base.isPrefixOf file && suffix.isSuffixOf file then
    match (file.take (file.length - suffix.length)).drop base.length with
    | '_' :: abbreviation => some abbreviation
    | _ => none
  else none

/-- A file that belongs to a package: its name, its path and its language. -/
structure Member where
  name : Text
  path : Text
  language : Language

/-- The files of a folder that belong to a package, in the order of their names, and the
warnings about those without a language. -/
def membersOf (logger directory packageName : Text) :
    List (Text × Tree) → List Member × List Log.Record
  | [] => ([], [])
  | (name, t) :: rest =>
    let (members, records) := membersOf logger directory packageName rest
    match t, abbreviationIn? packageName name with
    | .file _, some abbreviation =>
      match Language.ofAbbreviation? abbreviation with
      | some language => (⟨name, Path.below directory name, language⟩ :: members, records)
      | none =>
        (members, Catalog.warn logger ("⚠  unknown language abbreviation ".toList ++
          Text.quoted abbreviation ++ " in ".toList ++ name ++ "; skipped".toList) :: records)
    | _, _ => (members, records)

/-- What stands in a package's folder, or the warning that there is none. -/
def folder (tree : Tree) (logger : Text) (p : Package) :
    Attempt CatalogFault (Option (List (Text × Tree))) :=
  match tree.folder? p.directory with
  | .error f => { result := .error (.badPath p.directory f) }
  | .ok none =>
    { records :=
        [Catalog.warn logger ("⚠  language directory not found: ".toList ++ p.directory)]
      result := .ok none }
  | .ok (some ts) => { result := .ok (some ts) }

/-- The files in a package's folder that belong to a package. -/
def scan (tree : Tree) (logger : Text) (p : Package) (packageName : Text) :
    Attempt CatalogFault (List Member) :=
  let found := p.folder tree logger
  match found.result with
  | .error f => { records := found.records, result := .error f }
  | .ok none => { records := found.records, result := .ok [] }
  | .ok (some ts) =>
    let (members, records) := membersOf logger p.directory packageName (Tree.sorted ts)
    { records, result := .ok members }

/-- Do something with the files in a package's folder that belong to a package. -/
def withMembers (tree : Tree) (logger : Text) (p : Package) (packageName : Text)
    (act : List Member → Merged Package) : Merged Package :=
  let found := p.scan tree logger packageName
  match found.result with
  | .error f => { value := p, records := found.records, fault := some f }
  | .ok members =>
    let made := act members
    { made with records := found.records ++ made.records }

/-- The catalog of a language. -/
def catalog? (p : Package) (language : Language) : Option Catalog := p.catalogs.lookup language

/-- Put a catalog at the place of its language, or behind the others. -/
def putCatalog (language : Language) (c : Catalog) :
    List (Language × Catalog) → List (Language × Catalog)
  | [] => [(language, c)]
  | (l, d) :: rest =>
    if l = language then (l, c) :: rest else (l, d) :: putCatalog language c rest

/-- A package with a catalog in the place of the one of its language. -/
def withCatalog (p : Package) (language : Language) (c : Catalog) : Package :=
  { p with catalogs := putCatalog language c p.catalogs }

/-- Load some files one after the other, each into a fresh catalog, up to the first fault. -/
def loadAll (tree : Tree) (logger : Text) : List Member → Package → Merged Package
  | [], p => { value := p }
  | m :: rest, p =>
    let made := (Catalog.new m.path m.language).load tree logger
    match made.fault with
    | some f => { value := p, records := made.records, fault := some f }
    | none =>
      let record : Log.Record :=
        { logger, level := Log.info
          message := "✔ loaded ".toList ++ m.name ++ " (".toList ++ m.language.abbreviation ++
            ", ".toList ++ Text.ofNat made.value.entries.size ++ " entries)".toList }
      let more := loadAll tree logger rest (p.withCatalog m.language made.value)
      { more with records := made.records ++ record :: more.records }

/-- Load the files of the package. -/
def load (tree : Tree) (logger : Text) (p : Package) : Merged Package :=
  p.withMembers tree logger p.name fun members => p.loadAll tree logger members

/-- Merge some files into the catalogs of their languages, up to the first fault. -/
def appendAll (tree : Tree) (logger : Text) : List Member → Package → Merged Package
  | [], p => { value := p }
  | m :: rest, p =>
    match p.catalog? m.language with
    | none =>
      let record := Catalog.warn logger ("⚠  ".toList ++ m.name ++ " targets language ".toList ++
        m.language.abbreviation ++ " which is not loaded; skipped".toList)
      let more := appendAll tree logger rest p
      { more with records := record :: more.records }
    | some c =>
      let made := c.merge tree logger m.path
      let p := p.withCatalog m.language made.value
      match made.fault with
      | some f => { value := p, records := made.records, fault := some f }
      | none =>
        let more := appendAll tree logger rest p
        { more with records := made.records ++ more.records }

/-- Merge the files of another package of the same folder into the languages that are
loaded. -/
def append (tree : Tree) (logger : Text) (p : Package) (packageName : Text) : Merged Package :=
  p.withMembers tree logger packageName fun members => p.appendAll tree logger members

/-! ## The package as a store -/

/-- Where a pool of a package stands. -/
abbrev PoolPlace := Language × Text

/-- The entry of a key in one language, with the language. -/
def entryIn? (p : Package) (language : Language) (key : Text) : Option (Language × Entry) :=
  match p.catalog? language with
  | some c => (c.entries.find? key).map fun e => (language, e)
  | none => none

/-- The entry of a key in a language or else in the fallback language, with the language in
which it was found. -/
def entry? (p : Package) (language : Language) (key : Text) : Option (Language × Entry) :=
  match p.entryIn? language key, p.fallback with
  | some found, _ => some found
  | none, some fallback => if fallback = language then none else p.entryIn? fallback key
  | none, none => none

/-- What the package holds for a key in a language. -/
def find (p : Package) : Store PoolPlace Language := fun key language =>
  match p.entry? language key with
  | some (_, .text t) => some (.text t)
  | some (found, .pool _) => some (.pool (found, Text.lower key))
  | none => none

/-- The pool at a place; where there is none it is empty. -/
def pools (p : Package) (place : PoolPlace) : Pool :=
  match p.catalog? place.1 with
  | some c => c.entries.pools place.2
  | none => {}

/-- The package with every pool exchanged for the one of its place. -/
def restock (p : Package) (pools : PoolPlace → Pool) : Package :=
  { p with catalogs := p.catalogs.map fun e =>
      (e.1, { e.2 with entries := e.2.entries.restock fun key => pools (e.1, key) }) }

/-- Packages keep their pools in the catalogs of their languages. -/
def shelf : Shelf Package PoolPlace Language := ⟨find, pools, restock⟩

/-! ## Reading -/

/-- What reading a package leaves behind. -/
abbrev Reading (α : Type) := Outcome Package PoolPlace Language α

/-- The text of a key without expansion, rolling it if it is a pool. -/
def rawString (p : Package) (draws : Draws) (language : Language) (key : Text) :
    Option Text × Package × Draws :=
  match p.entry? language key with
  | none => (none, p, draws)
  | some (_, .text t) => (some t, p, draws)
  | some (found, .pool pool) =>
    let (picked, pool, draws) := pool.roll draws
    let place := (found, Text.lower key)
    (picked, p.restock fun q => if q = place then pool else p.pools q, draws)

/-- The finished string of a key: expanded, with its colours. -/
def string (r : Resolver) (p : Package) (draws : Draws) (language : Language)
    (fields : List (Option Field)) (key : Text) : Reading (Option Text) :=
  let o := r.expandKey shelf (some p) draws language fields key
  { o with value := o.value.map (Color.translate Color.alternateSign) }

/-- The finished string of a key in the first of some languages that has one. -/
def stringIn (r : Resolver) (draws : Draws) (fields : List (Option Field)) (key : Text) :
    List Language → Package → Reading (Option Text)
  | [], p => { value := none, shelf := some p, draws, trail := [] }
  | language :: rest, p =>
    let o := p.string r draws language fields key
    match o.value with
    | some _ => o
    | none =>
      let more := stringIn r o.draws fields key rest (o.shelf.getD p)
      { more with trail := o.trail ++ more.trail }

/-- The languages in which a string is looked for: the usual one, then the others in the
order of loading. -/
def searchOrder (p : Package) : List Language :=
  Language.default :: (p.catalogs.map Prod.fst).filter (· != Language.default)

/-- The finished string of a key in any language. -/
def anyString (r : Resolver) (p : Package) (draws : Draws) (fields : List (Option Field))
    (key : Text) : Reading (Option Text) :=
  stringIn r draws fields key p.searchOrder p

/-- A template expanded with the package as its store. -/
def processString (r : Resolver) (p : Package) (draws : Draws) (language : Language)
    (fields : List (Option Field)) (template : Text) : Reading Text :=
  r.expand shelf (some p) draws language fields template

/-- The segments of a finished string. A string without a marker is one segment, even if it
is empty. -/
def segmentsOf (line : Text) : Except MarkupFault (List Segment) :=
  if Text.hasPair '[' '@' line then segment line else .ok [⟨line, none⟩]

end Package

end Phrasebook
