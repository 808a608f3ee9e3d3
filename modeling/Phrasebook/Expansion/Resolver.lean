import Phrasebook.Expansion.Basic
import Phrasebook.Entries
import Phrasebook.Log.Record
import Phrasebook.Number.Read

/-!
# Resolvers

A resolver is the settings of an expansion. It performs calls on a shelf, which is anything
that keeps entries: a shelf can be asked like a store, gives out its pools by their places,
and takes them back after the call. An outcome is the value of a call with the shelf and the
source of draws as the call left them, and the trail of the call, oldest event first.

The template engine at the end expands a template with variables for fields. It never fails:
a variable of a kind that no field can hold leaves the template as it is.
-/

namespace Phrasebook

/-- How a type keeps entries and pools. -/
structure Shelf (σ ι lang : Type) where
  find : σ → Store ι lang
  pools : σ → ι → Pool
  restock : σ → (ι → Pool) → σ

/-- Entries keep their pools under their keys. -/
def Entries.shelf {lang : Type} : Shelf Entries Text lang := ⟨find, pools, restock⟩

/-- A note given to a logger: traces at the level of debugging, refusals as warnings. -/
def Note.record (n : Note) (logger : Text) : Log.Record :=
  { logger, level := if n.isTrace then Log.debug else Log.warning, message := n.message }

/-- What a call leaves behind. -/
structure Outcome (σ ι lang α : Type) where
  value : α
  shelf : Option σ
  draws : Draws
  trail : List (Event ι lang)

/-- The depth limit unless another is chosen. -/
def defaultMaxDepth : Int := 32

/-- Why a value is no depth limit. -/
inductive LimitFault where
  | notANumber
  | infinite
  | badText
  | wrongKind
  deriving DecidableEq, Repr

/-- The depth limit that a value stands for: the integer part of a number, or the integer
that a text spells. -/
def Value.limit? : Value → Except LimitFault Int
  | .scalar (.bool b) => .ok (if b then 1 else 0)
  | .scalar (.int i) => .ok i
  | .scalar (.float .nan) => .error .notANumber
  | .scalar (.float x) =>
    match x.truncate? with
    | some i => .ok i
    | none => .error .infinite
  | .scalar (.text t) =>
    match Number.int 10 t with
    | .ok i => .ok i
    | .error _ => .error .badText
  | _ => .error .wrongKind

/-- The settings of an expansion. -/
structure Resolver where
  maxDepth : Int := defaultMaxDepth
  tracing : Bool := false

namespace Outcome

variable {σ ι lang α : Type}

/-- The records that a call gave to a logger. -/
def records (o : Outcome σ ι lang α) (logger : Text) : List Log.Record :=
  o.trail.filterMap fun e => e.note?.map fun n => n.record logger

/-- The keys and languages that a call asked the store for. -/
def lookups (o : Outcome σ ι lang α) : List (Text × lang) := o.trail.filterMap Event.lookup?

end Outcome

namespace Resolver

variable {σ ι lang α : Type}

/-- What stays the same during a call on a shelf. -/
def scope (r : Resolver) (kind : Shelf σ ι lang) (shelf : Option σ) (language : lang)
    (fields : List (Option Field)) : Scope ι lang :=
  { store := shelf.map kind.find, language, fields
    maxDepth := r.maxDepth, tracing := r.tracing }

/-- Perform an action on the pools of a shelf, with an empty memo. -/
def perform (kind : Shelf σ ι lang) (shelf : Option σ) (draws : Draws) (act : Step ι lang α) :
    Outcome σ ι lang α :=
  let pools := match shelf with
    | some s => kind.pools s
    | none => fun _ => {}
  let (value, run) := act.run { pools, draws }
  { value, shelf := shelf.map fun s => kind.restock s run.pools, draws := run.draws
    trail := run.trail.reverse }

variable [DecidableEq ι]

/-- Expand a template. -/
def expand (r : Resolver) (kind : Shelf σ ι lang) (shelf : Option σ) (draws : Draws)
    (language : lang) (fields : List (Option Field)) (template : Text) :
    Outcome σ ι lang Text :=
  perform kind shelf draws ((r.scope kind shelf language fields).expand template)

/-- Expand the stored text of a key. -/
def expandKey (r : Resolver) (kind : Shelf σ ι lang) (shelf : Option σ) (draws : Draws)
    (language : lang) (fields : List (Option Field)) (key : Text) :
    Outcome σ ι lang (Option Text) :=
  perform kind shelf draws ((r.scope kind shelf language fields).expandKey key)

/-- Evaluate a condition. -/
def evaluate (r : Resolver) (kind : Shelf σ ι lang) (shelf : Option σ) (draws : Draws)
    (language : lang) (fields : List (Option Field)) (expression : Text) :
    Outcome σ ι lang (Option Bool) :=
  perform kind shelf draws ((r.scope kind shelf language fields).judge expression)

/-- Expand a template with variables for fields. If a variable has a kind that no field can
hold, the template is returned as it is, with the reason, and the shelf is not touched. -/
def render (r : Resolver) (kind : Shelf σ ι lang) (shelf : Option σ) (draws : Draws)
    (language : lang) (bindings : List (Text × Value)) (template : Text) :
    Outcome σ ι lang Text × Option UnsupportedKind :=
  match bindings.mapM fun v => Field.make v.1 v.2 with
  | .ok fields => (r.expand kind shelf draws language (fields.map some) template, none)
  | .error u => ({ value := template, shelf, draws, trail := [] }, some u)

end Resolver

/-- The record of a rendering that failed. -/
def UnsupportedKind.record (u : UnsupportedKind) (logger : Text) : Log.Record :=
  { logger, level := Log.error, message := "template rendering failed: ".toList ++ u.message }

end Phrasebook
