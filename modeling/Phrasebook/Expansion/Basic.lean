import Phrasebook.Condition
import Phrasebook.Template
import Phrasebook.Expansion.Run

/-!
# Recursive expansion

A hole is filled with the value of its key: what the memo holds, else the first field
with the key, else the stored text, itself expanded, else the key. A choice evaluates its
condition and is filled like the key that it chooses.

Stored texts are arbitrary, so nothing in them gets smaller on the way down. What does get
smaller is the room left below the depth limit: `stored` is a structural recursion on it,
and the work on one text (`fillHoles`, `fill`, `evaluate`) takes the action that answers
for the store as a parameter. The chain holds the small forms of the keys being expanded; a
key on it, and a key met where no room is left, is refused with one warning.
-/

namespace Phrasebook

variable {ι lang : Type}

namespace Scope

/-- The verdict on a condition, with `ask` answering for the store. -/
def evaluate (scope : Scope ι lang) (ask : Text → Step ι lang (Option Text))
    (expression : Text) : Step ι lang (Option Bool) :=
  Condition.evaluate scope.fields (some ask)
    (fun condition verdict => Step.say scope.tracing (.decided condition verdict)) expression

/-- The value of a key: from the memo, else from the fields, else from the store. -/
def resolve (scope : Scope ι lang) (ask : Text → Step ι lang (Option Text)) (key : Text) :
    Step ι lang (Option Text) := do
  match ← Step.memoized key with
  | some value => return some value
  | none =>
    match Field.find? key scope.fields with
    | some value => return some value.wording
    | none => ask key

/-- What a hole with a plain key is filled with. The value is kept in the memo; a key
without one is echoed. -/
def fillKey (scope : Scope ι lang) (ask : Text → Step ι lang (Option Text)) (key : Text) :
    Step ι lang Text := do
  match ← scope.resolve ask key with
  | some value =>
    Step.memoize key value
    return value
  | none =>
    Step.say scope.tracing (.unresolved key)
    return key

/-- What a hole is filled with. -/
def fill (scope : Scope ι lang) (ask : Text → Step ι lang (Option Text)) (raw : Text) :
    Step ι lang Text := do
  match Directive.read raw with
  | .key key => scope.fillKey ask key
  | .nothing => return []
  | .choose condition whenTrue whenFalse =>
    match ← scope.evaluate ask condition, whenFalse with
    | some true, _ => scope.fillKey ask whenTrue
    | some false, some other => scope.fillKey ask other
    | some false, none => return []
    | none, _ => return []

/-- Fill the holes of a template from left to right. An opening that is never closed is left
out with all that stands behind it. -/
def fillHoles (scope : Scope ι lang) (ask : Text → Step ι lang (Option Text)) :
    Template → Step ι lang Text
  | .ends lead => return lead
  | .unclosed lead _ => return lead
  | .hole lead key rest => do
    let value ← scope.fill ask key
    let others ← scope.fillHoles ask rest
    return lead ++ value ++ others

/-- The warning that a guard gives instead of asking the store for a key below a chain. -/
def refusal (scope : Scope ι lang) (chain : List Text) (key : Text) : Option Note :=
  if Text.lower key ∈ chain then some (.cyclic key chain)
  else if scope.maxDepth ≤ chain.length then some (.tooDeep scope.maxDepth key)
  else none

variable [DecidableEq ι]

/-- The expansion of a stored key with `room` levels left and a chain of keys above it, or
nothing if the key is refused, is not stored or finds an empty pool. -/
def stored (scope : Scope ι lang) (room : Nat) (chain : List Text) (key : Text) :
    Step ι lang (Option Text) :=
  match scope.store with
  | none => return none
  | some store =>
    if Text.lower key ∈ chain then do
      Step.say scope.tracing (.cyclic key chain)
      return none
    else
      match room with
      | 0 => do
        Step.say scope.tracing (.tooDeep scope.maxDepth key)
        return none
      | room + 1 => do
        match ← Step.fetch store scope.language chain key with
        | none => return none
        | some raw =>
          let value ← scope.fillHoles
            (fun k => scope.stored room (chain ++ [Text.lower key]) k) (Template.read raw)
          Step.say scope.tracing (.resolved key chain.length)
          return some value

/-- The stored value of a key at the top of a call. -/
def ask (scope : Scope ι lang) : Text → Step ι lang (Option Text) :=
  scope.stored scope.maxDepth.toNat []

/-- Expand a template. -/
def expand (scope : Scope ι lang) (template : Text) : Step ι lang Text :=
  scope.fillHoles scope.ask (Template.read template)

/-- Expand the stored text of a key. -/
def expandKey (scope : Scope ι lang) (key : Text) : Step ι lang (Option Text) := scope.ask key

/-- Evaluate a condition. -/
def judge (scope : Scope ι lang) (expression : Text) : Step ι lang (Option Bool) :=
  scope.evaluate scope.ask expression

end Scope

end Phrasebook
