import Phrasebook.Color
import Phrasebook.Entries
import Phrasebook.Folder
import Phrasebook.Language
import Phrasebook.Log.Record
import Phrasebook.Yaml.Load

/-!
# Catalogs

A catalog holds the entries of one language, read from files. A file is a mapping, whose
values become texts, except that a mapping becomes a pool. Entries of a file are written
one after the other, and when one of them cannot be made the ones before it stay. An
English catalog starts with an entry for every colour.
-/

namespace Phrasebook

/-- The entries of a language, and the file they belong to. -/
structure Catalog where
  path : Text
  language : Language
  entries : Entries

/-- Why a file was not merged, or not to its end. -/
inductive CatalogFault where
  /-- The path can be none, or does not let itself be looked at. -/
  | badPath (path : Text) (f : ReadFault)
  /-- The file is not text. -/
  | notText (f : Text.Utf8Fault)
  /-- The file is not well formed. -/
  | malformed (path : Text)
  /-- The file holds something else than a mapping. -/
  | notMapping (path kind : Text)
  /-- The file holds something that has no value. -/
  | noValue (f : Yaml.Fault)
  /-- A part of the file has no text. -/
  | noText (f : TextFault)
  /-- The candidates of a pool are no list. -/
  | notIterable (kind : Text)
  deriving DecidableEq, Repr

/-- The wording of a fault. -/
def CatalogFault.message : CatalogFault → Text
  | .badPath path f => f.message path
  | .notText f => f.message
  | .malformed path =>
    "invalid YAML in ".toList ++ path ++ ": ".toList ++ Yaml.Fault.malformed.message
  | .notMapping path kind =>
    path ++ ": top level must be a mapping, got ".toList ++ kind
  | .noValue f => f.message
  | .noText f => f.message
  | .notIterable kind => "'".toList ++ kind ++ "' object is not iterable".toList

/-- What an attempt leaves behind: its records, and a result or why there is none. -/
structure Attempt (ε α : Type) where
  records : List Log.Record := []
  result : Except ε α

/-- What a change of a catalog leaves behind. -/
structure Merged (α : Type) where
  value : α
  records : List Log.Record := []
  fault : Option CatalogFault := none

namespace Catalog

/-- A catalog before anything is read. -/
def new (path : Text) (language : Language) : Catalog :=
  { path := Path.clean path, language
    entries := if language = .english
      then .ofList (ChatColor.entries.map fun e => (e.1, .text e.2)) else {} }

/-- Write an entry. -/
def add (c : Catalog) (key : Text) (entry : Entry) : Catalog :=
  { c with entries := c.entries.insert key entry }

/-- The part of a dictionary under a text. -/
def member? (d : Document) (key : String) (entries : List (PartId × PartId)) : Option PartId :=
  (entries.find? fun e => d.isText key.toList e.1).map Prod.snd

/-- The wordings of the candidates that the part of a pool stands for; a scalar is the only
one. -/
def candidates (d : Document) (i : PartId) : Except CatalogFault (List Text) :=
  let wordings (is : List PartId) := (is.mapM d.wording).mapError .noText
  match d.part i with
  | .leaf (.scalar .null) => .ok []
  | .leaf (.scalar _) => wordings [i]
  | .leaf (.bytes octets) => .ok (octets.map fun b => Text.ofNat b.toNat)
  | .leaf (.date _) => .error (.notIterable "datetime.date".toList)
  | .leaf (.moment _) => .error (.notIterable "datetime.datetime".toList)
  | .leaf _ => .ok []
  | .list items => wordings items
  | .pair a b => wordings [a, b]
  | .dict entries => wordings (entries.map Prod.fst)
  | .set members => wordings members

/-- A warning of a logger. -/
def warn (logger message : Text) : Log.Record := { logger, level := Log.warning, message }

/-- The policy that a part names, if it names one. -/
def namedPolicy? (d : Document) (i : PartId) : Except TextFault (Option Policy) :=
  match d.part i with
  | .leaf (.scalar .null) => .ok none
  | _ => Policy.ofName? <$> d.spelling i

/-- The policy of a pool. One that does not exist is reported, and the usual one used. -/
def policy (logger key : Text) (d : Document) (parts : List (PartId × PartId)) :
    Except TextFault (Policy × List Log.Record) := do
  match member? d "type" parts with
  | none => return (.sequential, [])
  | some name =>
    match ← namedPolicy? d name with
    | some p => return (p, [])
    | none =>
      return (.sequential, [warn logger ("⚠  [".toList ++ key ++ "] invalid pool type ".toList ++
        (← d.literal name) ++ "; using '".toList ++ Policy.sequential.name ++ "' instead".toList)])

/-- The pool that a mapping stands for. -/
def pool (logger key : Text) (d : Document) (parts : List (PartId × PartId)) :
    Attempt CatalogFault Pool :=
  match policy logger key d parts with
  | .error f => { result := .error (.noText f) }
  | .ok (policy, records) =>
    match ((member? d "pool" parts).map (candidates d)).getD (.ok []) with
    | .error f => { records, result := .error f }
    | .ok [] =>
      { records := records ++ [warn logger ("⚠  [".toList ++ key ++ "] pool is empty".toList)]
        result := .ok { policy } }
    | .ok texts => { records, result := .ok (.ofList policy texts none) }

/-- The entry that a part stands for under a key. -/
def entryOf (logger key : Text) (d : Document) (i : PartId) : Attempt CatalogFault Entry :=
  match d.part i with
  | .dict parts =>
    let made := pool logger key d parts
    { records := made.records, result := made.result.map .pool }
  | _ => { result := ((d.wording i).map .text).mapError .noText }

/-- Write the entries of a file one after the other, up to the first that cannot be made. -/
def addAll (logger : Text) (d : Document) : List (PartId × PartId) → Catalog → Merged Catalog
  | [], c => { value := c }
  | (k, v) :: rest, c =>
    match d.spelling k with
    | .error f => { value := c, fault := some (.noText f) }
    | .ok key =>
      let made := entryOf logger key d v
      match made.result with
      | .error f => { value := c, records := made.records, fault := some f }
      | .ok entry =>
        let more := addAll logger d rest (c.add key entry)
        { more with records := made.records ++ more.records }

/-- Merge a document that was read from a path. One that stands for nothing changes nothing. -/
def mergeDocument (logger path : Text) (d : Document) (c : Catalog) : Merged Catalog :=
  match d.part d.root with
  | .leaf (.scalar .null) => { value := c }
  | .dict entries =>
    let made := addAll logger d entries c
    match made.fault with
    | some _ => made
    | none =>
      { made with records := made.records ++
          [{ logger, level := Log.debug
             message := "loaded ".toList ++ Text.ofNat entries.length ++ " entries from ".toList ++
               path }] }
  | p => { value := c, fault := some (.notMapping path p.kind) }

/-- The document of a file. -/
def document (path : Text) : Content → Except CatalogFault Document
  | .document d => .ok d
  | .octets bytes =>
    match Text.ofUtf8 bytes with
    | .error f => .error (.notText f)
    | .ok source =>
      match Yaml.load source with
      | .ok d => .ok d
      | .error .malformed => .error (.malformed path)
      | .error f => .error (.noValue f)

/-- Merge the file at a path. A file that cannot be read is reported and changes nothing. -/
def merge (tree : Tree) (logger path : Text) (c : Catalog) : Merged Catalog :=
  let path := Path.clean path
  match tree.read path with
  | .error .nullCharacter => { value := c, fault := some (.badPath path .nullCharacter) }
  | .error f =>
    { value := c
      records := [warn logger ("⚠  could not read language file ".toList ++ path ++ ": ".toList ++
        f.message path)] }
  | .ok content =>
    match document path content with
    | .error f => { value := c, fault := some f }
    | .ok v => c.mergeDocument logger path v

/-- Merge the catalog's own file. -/
def load (tree : Tree) (logger : Text) (c : Catalog) : Merged Catalog := c.merge tree logger c.path

/-- The text of an entry, rolling it if it is a pool, with the catalog and the source of
draws afterwards. -/
def get (c : Catalog) (draws : Draws) (key : Text) : Option Text × Catalog × Draws :=
  match c.entries.find? key with
  | none => (none, c, draws)
  | some (.text t) => (some t, c, draws)
  | some (.pool p) =>
    let (picked, p, draws) := p.roll draws
    (picked, c.add key (.pool p), draws)

end Catalog

end Phrasebook
