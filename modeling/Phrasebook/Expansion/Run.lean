import Phrasebook.Field
import Phrasebook.Pool

/-!
# What happens during an expansion

An expansion asks a store for keys. The store answers with a text or with the place of a
pool, and the pools themselves stand beside it as a map from places, so that the store
never changes while the pools turn. A `Scope` is everything that stays the same during one
call. A `Run` is everything that changes: the pools, the shared source of draws, the memo of
keys already resolved, and the trail of all that happened, newest first. `Step` is an action
on a run.
-/

namespace Phrasebook

/-- What a store holds for a key. -/
inductive Found (ι : Type) where
  | text (t : Text)
  | pool (place : ι)
  deriving DecidableEq, Repr

/-- What is said about an expansion while it runs. -/
inductive Note where
  /-- A key that refers back to itself through the chain of keys. -/
  | cyclic (key : Text) (chain : List Text)
  /-- A key that lies deeper than the limit. -/
  | tooDeep (limit : Int) (key : Text)
  /-- A key that stands for nothing and is echoed. -/
  | unresolved (key : Text)
  /-- A key whose stored text was expanded at a depth. -/
  | resolved (key : Text) (depth : Nat)
  /-- The verdict on a condition. -/
  | decided (condition : Text) (verdict : Option Bool)
  deriving DecidableEq, Repr

namespace Note

/-- Is the note made only while tracing? -/
def isTrace : Note → Bool
  | .cyclic .. | .tooDeep .. => false
  | .unresolved .. | .resolved .. | .decided .. => true

/-- The spelling of a trace: its name and its particulars. -/
def traceText (what : String) (particulars : List (String × Value)) : Text :=
  what.toList ++ " | ctx=".toList ++
    (Value.dict (particulars.map fun p => (.ofText p.1.toList, p.2))).literal

/-- The wording of a note. -/
def message : Note → Text
  | .cyclic key chain =>
    "⚠  cyclic reference to ".toList ++ Text.quoted key ++ " via ".toList ++
      Text.joinWith " → ".toList chain ++ "; left unresolved".toList
  | .tooDeep limit key =>
    "⚠  reference depth ".toList ++ Text.ofInt limit ++ " exceeded at ".toList ++
      Text.quoted key ++ "; left unresolved".toList
  | .unresolved key => traceText "placeholder unresolved" [("key", .ofText key)]
  | .resolved key depth =>
    traceText "placeholder resolved from store"
      [("key", .ofText key), ("depth", .scalar (.int depth))]
  | .decided condition verdict =>
    traceText "condition evaluated"
      [("expression", .ofText condition),
       ("result", .scalar (match verdict with | none => .null | some b => .bool b))]

end Note

/-- One thing that happened in a run. -/
inductive Event (ι lang : Type) where
  /-- The store was asked for a key while the keys of the chain were being expanded. -/
  | lookup (key : Text) (language : lang) (chain : List Text)
  /-- The pool found for a key was rolled. -/
  | roll (key : Text) (place : ι) (picked : Option Text)
  /-- Something was said. -/
  | note (n : Note)
  deriving DecidableEq, Repr

namespace Event

variable {ι lang : Type}

/-- The key and language that the store was asked for. -/
def lookup? : Event ι lang → Option (Text × lang)
  | .lookup key language _ => some (key, language)
  | _ => none

/-- What was said. -/
def note? : Event ι lang → Option Note
  | .note n => some n
  | _ => none

end Event

/-- A store: what it holds for a key in a language. -/
abbrev Store (ι lang : Type) := Text → lang → Option (Found ι)

/-- What stays the same during one call. Without a store only the fields count. -/
structure Scope (ι lang : Type) where
  store : Option (Store ι lang)
  language : lang
  fields : List (Option Field)
  maxDepth : Int
  tracing : Bool

/-- What changes during one call. -/
structure Run (ι lang : Type) where
  pools : ι → Pool
  draws : Draws
  memo : List (Text × Text) := []
  trail : List (Event ι lang) := []

/-- An action on a run. -/
abbrev Step (ι lang : Type) := StateM (Run ι lang)

namespace Step

variable {ι lang : Type}

/-- Put an event on the trail. -/
def record (e : Event ι lang) : Step ι lang Unit :=
  modify fun run => { run with trail := e :: run.trail }

/-- Say something, traces only while tracing. -/
def say (tracing : Bool) (n : Note) : Step ι lang Unit :=
  if n.isTrace && !tracing then pure () else record (.note n)

/-- What the memo holds for a key. -/
def memoized (key : Text) : Step ι lang (Option Text) := do
  return (← get).memo.lookup key

/-- Put the value of a key into the memo. -/
def memoize (key value : Text) : Step ι lang Unit :=
  modify fun run => { run with memo := (key, value) :: run.memo }

variable [DecidableEq ι]

/-- Roll the pool at a place. -/
def roll (key : Text) (place : ι) : Step ι lang (Option Text) := do
  let run ← get
  let (picked, pool, draws) := (run.pools place).roll run.draws
  set { run with
    pools := fun p => if p = place then pool else run.pools p
    draws
    trail := .roll key place picked :: run.trail }
  return picked

/-- Ask the store for a key, rolling the pool if it answers with one. -/
def fetch (store : Store ι lang) (language : lang) (chain : List Text) (key : Text) :
    Step ι lang (Option Text) := do
  record (.lookup key language chain)
  match store key language with
  | none => return none
  | some (.text t) => return some t
  | some (.pool place) => roll key place

end Step

end Phrasebook
