import Phrasebook.Command.Arguments
import Phrasebook.Log.Record
import Phrasebook.Package

/-!
# The jobs of the command

A job is a request with its parts checked: what to write, in which language, with which
fields. Doing it loads the package, appends the others, and writes the string of the key or
the expanded template, or their segments. Whatever the outcome, the records of the way stay.
-/

namespace Phrasebook.Command

/-- Why a job gives no text. -/
inductive Fault where
  /-- The request cannot be met; the reason was logged. -/
  | refused (reason : Text)
  /-- A file cannot be merged. -/
  | catalog (f : CatalogFault)
  /-- The folder of the package was given as nothing. -/
  | noDirectory
  /-- A package was named by nothing. -/
  | noName
  /-- The text cannot be written. -/
  | unwritable (reason : Text)
  deriving DecidableEq, Repr

/-- The wording of a fault. -/
def Fault.message : Fault → Text
  | .refused reason => reason
  | .catalog f => f.message
  | .noDirectory => "expected str, bytes or os.PathLike object, not list".toList
  | .noName => "'list' object has no attribute 'lower'".toList
  | .unwritable reason => reason

/-- What a job writes. -/
inductive Subject where
  | key (k : Text)
  | template (t : Text)
  deriving DecidableEq, Repr

/-- A request with its parts checked. -/
structure Job where
  subject : Subject
  segments : Bool
  directory : Given
  name : Given
  append : List Given
  language : Language
  fallback : Option Language
  fields : List Field

/-! ## Checking -/

/-- The field that a text with an equals sign stands for. -/
def readField (item : Given) : Except Text Field :=
  match cutAtEquals item.getText with
  | (key, some value) => .ok ⟨key, .text value⟩
  | (_, none) =>
    .error ("--field expects KEY=VALUE (got '".toList ++ item.spelling ++ "')".toList)

/-- The fields that some items stand for, and why the others stand for none. -/
def readFields (items : List Given) : List Field × List Text :=
  (items.filterMap fun i => (readField i).toOption,
   items.filterMap fun i => match readField i with
    | .ok _ => none
    | .error reason => some reason)

/-- The language with an abbreviation that was given for an option. -/
def readLanguage (option : Switch) (abbreviation : Given) : Except Text Language :=
  match Language.ofAbbreviation? abbreviation.getText with
  | some l => .ok l
  | none => .error (option.longForm ++ ": unknown language ".toList ++ abbreviation.literal)

/-- What the settings ask to write. A template goes before a key, and an empty key is none. -/
def Settings.subject (s : Settings) : Except Text Subject :=
  match s.template, s.key with
  | some t, _ => .ok (.template t.getText)
  | none, some (c :: k) => .ok (.key (c :: k))
  | none, _ => .error "either KEY or --template is required".toList

/-- The job that the settings ask for, or the first reason why there is none. -/
def Settings.job (s : Settings) : Except Text Job := do
  let subject ← s.subject
  let language ← readLanguage .language s.language
  let fallback ← s.fallback.mapM (readLanguage .fallback)
  let fields ← s.fields.mapM readField
  return { subject, segments := s.segments, directory := s.directory, name := s.name
           append := s.append, language, fallback, fields }

/-! ## Doing -/

/-- What doing a job leaves behind. -/
structure Done where
  records : List Log.Record
  result : Except Fault Text

/-- The record of a fault that the command reports itself. -/
def report (message : Text) : Log.Record :=
  { logger := Log.baseName, level := Log.error, message }

/-- A job that was refused, with the reason logged. -/
def Done.refused (reason : Text) : Done :=
  { records := [report reason], result := .error (.refused reason) }

/-- The records of a job with earlier ones in front. -/
def Done.after (records : List Log.Record) (d : Done) : Done :=
  { d with records := records ++ d.records }

/-- Segments as lines of the interchange notation. -/
def segmentLines (ss : List Segment) : Text :=
  ss.flatMap fun s => s.toJson.write ++ ['\n']

/-- Do something with a package under a name. Where the name is nothing, that is noticed after
the folder of the package was found. -/
def withName (tree : Tree) (logger : Text) (p : Package) (name : Given)
    (act : Text → Merged Package) : Attempt Fault Package :=
  match name with
  | .text n =>
    let made := act n
    { records := made.records
      result := match made.fault with
        | some f => .error (.catalog f)
        | none => .ok made.value }
  | .nothing =>
    let found := p.folder tree logger
    { records := found.records
      result := match found.result with
        | .error f => .error (.catalog f)
        | .ok none => .ok p
        | .ok (some _) => .error .noName }

/-- Append packages one after the other, up to the first fault. -/
def appendAll (tree : Tree) (logger : Text) : List Given → Package → Attempt Fault Package
  | [], p => { result := .ok p }
  | name :: rest, p =>
    let made := withName tree logger p name (p.append tree logger)
    match made.result with
    | .error _ => made
    | .ok p =>
      let more := appendAll tree logger rest p
      { more with records := made.records ++ more.records }

namespace Job

/-- The package of a job, with the others appended. -/
def package (tree : Tree) (j : Job) : Attempt Fault Package :=
  match j.directory with
  | .nothing => { result := .error .noDirectory }
  | .text directory =>
    let logger := Log.loggerName "package".toList
    let p := Package.new directory j.name.getText j.fallback
    let made := withName tree logger p j.name fun _ => p.load tree logger
    match made.result with
    | .error _ => made
    | .ok p =>
      let more := appendAll tree logger j.append p
      { more with records := made.records ++ more.records }

/-- The finished line of a job's subject. Only a key may have none. -/
def line (r : Resolver) (p : Package) (draws : Draws) (j : Job) : Package.Reading (Option Text) :=
  let fields := j.fields.map some
  match j.subject with
  | .key k => p.string r draws j.language fields k
  | .template t =>
    let o := p.processString r draws j.language fields t
    { o with value := some (Color.translate Color.alternateSign o.value) }

/-- The segments of a finished line. A line without markers is one segment where it is the
string of a key, and no segment where it is empty otherwise. -/
def segmentsOf (line : Text) : Subject → Except MarkupFault (List Segment)
  | .key _ => Package.segmentsOf line
  | .template _ => segment line

/-- Where malformed markup was found. -/
def place : Subject → Text
  | .key k => " in ".toList ++ Text.quoted k
  | .template _ => []

/-- What a job writes for its finished line. -/
def write (j : Job) : Option Text → Except Text Text
  | none =>
    let key := match j.subject with
      | .key k => k
      | .template _ => []
    .error ("no entry for key ".toList ++ Text.quoted key ++ " (".toList ++
      j.language.abbreviation ++ [')'])
  | some line =>
    if j.segments then
      match segmentsOf line j.subject with
      | .ok ss => .ok (segmentLines ss)
      | .error f =>
        .error ("malformed markup".toList ++ place j.subject ++ ": ".toList ++ f.message line)
    else .ok (line ++ ['\n'])

/-- Do a job. -/
def perform (tree : Tree) (r : Resolver) (draws : Draws) (j : Job) : Done :=
  let made := j.package tree
  match made.result with
  | .error f => { records := made.records, result := .error f }
  | .ok p =>
    let o := j.line r p draws
    let records := made.records ++ o.records (Log.loggerName "resolver".toList)
    match j.write o.value with
    | .ok text => { records, result := .ok text }
    | .error reason => (Done.refused reason).after records

end Job

/-- Do what the settings ask for. -/
def Settings.perform (tree : Tree) (r : Resolver) (draws : Draws) (s : Settings) : Done :=
  match s.job with
  | .ok j => j.perform tree r draws
  | .error reason => .refused reason

end Phrasebook.Command
