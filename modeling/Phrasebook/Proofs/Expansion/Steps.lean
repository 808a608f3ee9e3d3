import Phrasebook.Expansion.Basic

/-!
# What a step does to a run

One equation for every way that a step can go: saying, memo, fetching, a hole with a plain
key, a stored key. Later files reason with these and open no step again.
-/

namespace Phrasebook

variable {ι lang : Type}

/-- How many events of a kind are on the trail. -/
def Run.count (kind : Event ι lang → Bool) (run : Run ι lang) : Nat := run.trail.countP kind

namespace Step

@[simp] theorem pure_run {α : Type} (a : α) (run : Run ι lang) :
    (pure a : Step ι lang α) run = (a, run) := rfl

@[simp] theorem bind_run {α β : Type} (x : Step ι lang α) (f : α → Step ι lang β)
    (run : Run ι lang) : (x >>= f) run = f (x run).1 (x run).2 := rfl

@[simp] theorem map_run {α β : Type} (f : α → β) (x : Step ι lang α) (run : Run ι lang) :
    (f <$> x) run = (f (x run).1, (x run).2) := rfl

@[simp] theorem memoized_run (key : Text) (run : Run ι lang) :
    memoized key run = (run.memo.lookup key, run) := rfl

@[simp] theorem memoize_run (key value : Text) (run : Run ι lang) :
    memoize key value run = ((), { run with memo := (key, value) :: run.memo }) := rfl

/-- The run after something was said. -/
def said (tracing : Bool) (n : Note) (run : Run ι lang) : Run ι lang :=
  if n.isTrace && !tracing then run else { run with trail := .note n :: run.trail }

@[simp] theorem say_run (tracing : Bool) (n : Note) (run : Run ι lang) :
    say tracing n run = ((), said tracing n run) := by
  unfold say said
  split <;> rfl

theorem said_of_not_trace (tracing : Bool) {n : Note} (h : n.isTrace = false) (run : Run ι lang) :
    said tracing n run = { run with trail := .note n :: run.trail } := by
  simp [said, h]

@[simp] theorem said_tracing (n : Note) (run : Run ι lang) :
    said true n run = { run with trail := .note n :: run.trail } := by
  simp [said]

@[simp] theorem memo_said (tracing : Bool) (n : Note) (run : Run ι lang) :
    (said tracing n run).memo = run.memo := by
  unfold said
  split <;> rfl

theorem trail_suffix_said (tracing : Bool) (n : Note) (run : Run ι lang) :
    run.trail <:+ (said tracing n run).trail := by
  unfold said
  split
  · exact List.suffix_refl _
  · exact List.suffix_cons _ _

theorem count_said {kind : Event ι lang → Bool} {n : Note} (h : kind (.note n) = false)
    (tracing : Bool) (run : Run ι lang) : (said tracing n run).count kind = run.count kind := by
  unfold said
  split
  · rfl
  · exact List.countP_cons_of_neg (by simp [h])

variable [DecidableEq ι] {store : Store ι lang} {language : lang} {key : Text}

/-- The run after a pool was rolled. -/
def rolled (key : Text) (place : ι) (run : Run ι lang) : Run ι lang :=
  let outcome := (run.pools place).roll run.draws
  { run with
    pools := fun p => if p = place then outcome.2.1 else run.pools p
    draws := outcome.2.2
    trail := .roll key place outcome.1 :: run.trail }

theorem count_rolled (kind : Event ι lang → Bool) (key : Text) (place : ι) (run : Run ι lang) :
    (rolled key place run).count kind = run.count kind +
      if kind (.roll key place ((run.pools place).roll run.draws).1) then 1 else 0 :=
  List.countP_cons

theorem roll_run (key : Text) (place : ι) (run : Run ι lang) :
    roll key place run = (((run.pools place).roll run.draws).1, rolled key place run) := rfl

/-- The run after the store was asked. -/
def asked (language : lang) (chain : List Text) (key : Text) (run : Run ι lang) : Run ι lang :=
  { run with trail := .lookup key language chain :: run.trail }

omit [DecidableEq ι] in
theorem count_asked {kind : Event ι lang → Bool} {chain : List Text}
    (h : kind (.lookup key language chain) = false) (run : Run ι lang) :
    (asked language chain key run).count kind = run.count kind :=
  List.countP_cons_of_neg (by simp [h])

theorem fetch_missing (h : store key language = none) (chain : List Text) (run : Run ι lang) :
    fetch store language chain key run = (none, asked language chain key run) := by
  simp [fetch, h]
  rfl

theorem fetch_text {raw : Text} (h : store key language = some (.text raw)) (chain : List Text)
    (run : Run ι lang) :
    fetch store language chain key run = (some raw, asked language chain key run) := by
  simp [fetch, h]
  rfl

theorem fetch_pool {place : ι} (h : store key language = some (.pool place)) (chain : List Text)
    (run : Run ι lang) :
    fetch store language chain key run = roll key place (asked language chain key run) := by
  simp [fetch, h]
  rfl

end Step

namespace Scope

section Keys

variable {scope : Scope ι lang} {ask : Text → Step ι lang (Option Text)} {key : Text}
variable {run : Run ι lang}

theorem fillKey_held {value : Text} (held : run.memo.lookup key = some value) :
    scope.fillKey ask key run = (value, { run with memo := (key, value) :: run.memo }) := by
  simp [fillKey, resolve, held]

theorem fillKey_field {v : Scalar} (held : run.memo.lookup key = none)
    (field : Field.find? key scope.fields = some v) :
    scope.fillKey ask key run =
      (v.wording, { run with memo := (key, v.wording) :: run.memo }) := by
  simp [fillKey, resolve, held, field]

theorem fillKey_stored {value : Text} {after : Run ι lang} (held : run.memo.lookup key = none)
    (field : Field.find? key scope.fields = none) (asked : ask key run = (some value, after)) :
    scope.fillKey ask key run = (value, { after with memo := (key, value) :: after.memo }) := by
  simp [fillKey, resolve, held, field, asked]

theorem fillKey_missing {after : Run ι lang} (held : run.memo.lookup key = none)
    (field : Field.find? key scope.fields = none) (asked : ask key run = (none, after)) :
    scope.fillKey ask key run = (key, Step.said scope.tracing (.unresolved key) after) := by
  simp [fillKey, resolve, held, field, asked]

end Keys

section Stored

variable [DecidableEq ι] {scope : Scope ι lang} {store : Store ι lang} {room : Nat}
variable {chain : List Text} {key : Text} {run after : Run ι lang}

theorem stored_storeless (h : scope.store = none) :
    scope.stored room chain key run = (none, run) := by
  rw [stored, h]
  rfl

theorem stored_cyclic (h : scope.store = some store) (hkey : Text.lower key ∈ chain) :
    scope.stored room chain key run =
      (none, { run with trail := .note (.cyclic key chain) :: run.trail }) := by
  rw [stored, h]
  simp [hkey, Step.said_of_not_trace (n := .cyclic key chain) scope.tracing rfl]

theorem stored_tooDeep (h : scope.store = some store) (hkey : Text.lower key ∉ chain) :
    scope.stored 0 chain key run =
      (none, { run with trail := .note (.tooDeep scope.maxDepth key) :: run.trail }) := by
  rw [stored, h]
  simp [hkey, Step.said_of_not_trace (n := .tooDeep scope.maxDepth key) scope.tracing rfl]

theorem stored_unfetched (h : scope.store = some store) (hkey : Text.lower key ∉ chain)
    (hfetch : Step.fetch store scope.language chain key run = (none, after)) :
    scope.stored (room + 1) chain key run = (none, after) := by
  rw [stored, h]
  simp [hkey, hfetch]

theorem stored_fetched {raw value : Text} {after' : Run ι lang} (h : scope.store = some store)
    (hkey : Text.lower key ∉ chain)
    (hfetch : Step.fetch store scope.language chain key run = (some raw, after))
    (hfill : scope.fillHoles (scope.stored room (chain ++ [Text.lower key])) (Template.read raw)
      after = (value, after')) :
    scope.stored (room + 1) chain key run =
      (some value, Step.said scope.tracing (.resolved key chain.length) after') := by
  rw [stored, h]
  simp [hkey, hfetch, hfill]

end Stored

end Scope

end Phrasebook
