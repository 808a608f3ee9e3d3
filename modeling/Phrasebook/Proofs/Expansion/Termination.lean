import Phrasebook.Proofs.Condition.Layers
import Phrasebook.Proofs.Expansion.Call

/-!
# Every call ends, within the guards

A `Walk` is an action that may not end. The walks below are the recursion as it goes: holes,
keys, conditions with their sides, and stored texts call one another, and nothing but the
two guards stands in their way. They are the least solution of their equations, so a walk
that goes on for ever has no value.

None does (`serve_ends`). What gets smaller is, in this order, the room between the chain and
the limit, the holes that are left of a text, and the layers of a condition: the walk of a
stored key is `Scope.stored` with that room (`walkStored_eq`), which is an induction on the
room over the equations for one text. The chain that a lookup is made under comes from
`Simulation.Primitives`.
-/

namespace Phrasebook

variable {ι lang : Type}

/-- An action on a run that may not end. -/
abbrev Walk (ι lang : Type) := StateT (Run ι lang) Option

/-- A step as a walk, which ends. -/
def Step.once {α : Type} (act : Step ι lang α) : Walk ι lang α := fun run => some (act run)

@[simp] theorem Step.once_bind_run {α β : Type} (x : Step ι lang α) (f : α → Walk ι lang β)
    (run : Run ι lang) : (x.once >>= f) run = f (x run).1 (x run).2 := rfl

@[simp] theorem Step.map_once_run {α β : Type} (f : α → β) (x : Step ι lang α)
    (run : Run ι lang) : (f <$> x.once) run = some (f (x run).1, (x run).2) := rfl

@[simp] theorem Step.pure_walk {α : Type} (a : α) (run : Run ι lang) :
    (pure a : Walk ι lang α) run = some (a, run) := rfl

namespace Scope

variable [DecidableEq ι]

mutual

/-- Walk through the stored text of a key. -/
def walkStored (scope : Scope ι lang) (chain : List Text) (key : Text) :
    Walk ι lang (Option Text) :=
  match scope.store with
  | none => return none
  | some store =>
    match scope.refusal chain key with
    | some n => do
      Step.once (Step.say scope.tracing n)
      return none
    | none => do
      match ← Step.once (Step.fetch store scope.language chain key) with
      | none => return none
      | some raw =>
        let value ← scope |>.walkHoles (chain ++ [Text.lower key]) (Template.read raw)
        Step.once (Step.say scope.tracing (.resolved key chain.length))
        return some value
partial_fixpoint

/-- Walk through the holes of a template. -/
def walkHoles (scope : Scope ι lang) (chain : List Text) : Template → Walk ι lang Text
  | .ends lead => return lead
  | .unclosed lead _ => return lead
  | .hole lead key rest => do
    let value ← scope |>.walkHole chain (Directive.read key)
    let others ← scope |>.walkHoles chain rest
    return lead ++ value ++ others
partial_fixpoint

/-- Walk through one hole. -/
def walkHole (scope : Scope ι lang) (chain : List Text) : Directive → Walk ι lang Text
  | .key key => scope |>.walkKey chain key
  | .nothing => return []
  | .choose condition whenTrue whenFalse => do
    match ← scope |>.walkCondition chain condition, whenFalse with
    | some true, _ => scope |>.walkKey chain whenTrue
    | some false, some other => scope |>.walkKey chain other
    | some false, none => return []
    | none, _ => return []
partial_fixpoint

/-- Walk to the value of a key. -/
def walkKey (scope : Scope ι lang) (chain : List Text) (key : Text) : Walk ι lang Text := do
  match ← Step.once (Step.memoized key), Field.find? key scope.fields with
  | some value, _ =>
    Step.once (Step.memoize key value)
    return value
  | none, some v =>
    Step.once (Step.memoize key v.wording)
    return v.wording
  | none, none =>
    match ← scope |>.walkStored chain key with
    | some value =>
      Step.once (Step.memoize key value)
      return value
    | none =>
      Step.once (Step.say scope.tracing (.unresolved key))
      return key
partial_fixpoint

/-- Walk through a condition, whose sides are conditions again. -/
def walkCondition (scope : Scope ι lang) (chain : List Text) (expression : Text) :
    Walk ι lang (Option Bool) :=
  if Text.hasPair '&' '&' (Text.trim expression) then do
    let all ← scope |>.walkEvery chain (Text.splitPair '&' '&' (Text.trim expression))
    return some all
  else if Text.hasPair '|' '|' (Text.trim expression) then do
    let found ← scope |>.walkSome chain (Text.splitPair '|' '|' (Text.trim expression))
    if found then return some true else scope |>.walkAtom chain (Text.trim expression)
  else scope |>.walkAtom chain (Text.trim expression)
partial_fixpoint

/-- Walk through the sides of `&&` up to the first that is not true. -/
def walkEvery (scope : Scope ι lang) (chain : List Text) : List Text → Walk ι lang Bool
  | [] => return true
  | side :: sides => do
    let verdict ← scope |>.walkCondition chain side
    if verdict = some true then scope |>.walkEvery chain sides else return false
partial_fixpoint

/-- Walk through the sides of `||` up to the first that is true. -/
def walkSome (scope : Scope ι lang) (chain : List Text) : List Text → Walk ι lang Bool
  | [] => return false
  | side :: sides => do
    let verdict ← scope |>.walkCondition chain side
    if verdict = some true then return true else scope |>.walkSome chain sides
partial_fixpoint

/-- Walk to the verdict on an atom. -/
def walkAtom (scope : Scope ι lang) (chain : List Text) (condition : Text) :
    Walk ι lang (Option Bool) := do
  let verdict ← match Condition.Atom.read condition with
    | .compare key literal differ =>
      pure (Condition.negateIf differ
        ((Field.find? key scope.fields).map fun v => Condition.agrees v literal))
    | .bare name invert =>
      match Field.find? name scope.fields with
      | some v => pure (Condition.negateIf invert (some v.holds))
      | none => do
        let stored ← scope |>.walkStored chain name
        pure (Condition.negateIf invert (stored.map Scalar.textHolds))
  Step.once (Step.say scope.tracing (.decided condition verdict))
  return verdict
partial_fixpoint

end

/-- Walk through a call, from an empty chain. -/
def walk (scope : Scope ι lang) : Call → Walk ι lang Answer
  | .expand template => return .text (← scope.walkHoles [] (Template.read template))
  | .expandKey key => return .stored (← scope.walkStored [] key)
  | .judge expression => return .verdict (← scope.walkCondition [] expression)

end Scope

/-- A walk goes like a step, and so ends. -/
def Simulation.ending (ι lang : Type) : Simulation (Step ι lang) (Walk ι lang) where
  Rel x y := y = x.once
  pure _ := rfl
  bind hx hf := by
    rw [hx, funext hf]
    rfl

namespace Scope

variable [DecidableEq ι] {scope : Scope ι lang} {chain : List Text}

theorem walkEvery_eq (sides : List Text) :
    scope.walkEvery chain sides = Condition.everyTrue (scope.walkCondition chain) sides := by
  induction sides with
  | nil => rw [walkEvery]; rfl
  | cons side sides ih => rw [walkEvery, ih]; rfl

theorem walkSome_eq (sides : List Text) :
    scope.walkSome chain sides = Condition.someTrue (scope.walkCondition chain) sides := by
  induction sides with
  | nil => rw [walkSome]; rfl
  | cons side sides ih => rw [walkSome, ih]; rfl

theorem walkHole_eq (d : Directive) :
    scope.walkHole chain d = d.fillWith (scope.walkCondition chain) (scope.walkKey chain) := by
  cases d <;> rw [walkHole] <;> rfl

theorem walkHoles_eq (t : Template) :
    scope.walkHoles chain t = t.fillWith (scope.walkCondition chain) (scope.walkKey chain) := by
  induction t with
  | ends lead => rw [walkHoles]; rfl
  | unclosed lead tail => rw [walkHoles]; rfl
  | hole lead key rest ih =>
    rw [walkHoles, ih, walkHole_eq]
    rfl

theorem walkAtom_eq (condition : Text) :
    scope.walkAtom chain condition =
      Condition.evaluateAtom scope.fields (some (scope.walkStored chain))
        (fun c verdict => Step.once (Step.say scope.tracing (.decided c verdict))) condition := by
  rw [walkAtom, Condition.evaluateAtom]
  cases Condition.Atom.read condition with
  | compare key literal differ => rfl
  | bare name invert =>
    simp only [Condition.Atom.decide]
    cases Field.find? name scope.fields with
    | some v => rfl
    | none => exact (bind_assoc _ _ _).symm

/-- Walking through a condition, round by round, is evaluating it. -/
theorem walkCondition_eq (expression : Text) :
    scope.walkCondition chain expression =
      Condition.evaluate scope.fields (some (scope.walkStored chain))
        (fun c verdict => Step.once (Step.say scope.tracing (.decided c verdict))) expression := by
  refine Condition.evaluate_unique (fun e => ?_) expression
  rw [walkCondition, walkEvery_eq, walkSome_eq, walkAtom_eq]
  rfl

section Ends

variable {ask : Text → Step ι lang (Option Text)}

theorem walkKey_once (h : ∀ key, scope.walkStored chain key = (ask key).once) (key : Text) :
    scope.walkKey chain key = (scope.fillKey ask key).once := by
  funext run
  rw [walkKey, h, Step.once]
  cases held : run.memo.lookup key with
  | some value =>
    rw [fillKey_held held]
    simp [held]
  | none =>
    cases field : Field.find? key scope.fields with
    | some v =>
      rw [fillKey_field held field]
      simp [held]
    | none =>
      match asked : ask key run with
      | (some value, after) =>
        rw [fillKey_stored held field asked]
        simp [held, asked]
      | (none, after) =>
        rw [fillKey_missing held field asked]
        simp [held, asked]

theorem walkCondition_once (h : ∀ key, scope.walkStored chain key = (ask key).once)
    (expression : Text) :
    scope.walkCondition chain expression = (scope.evaluate ask expression).once := by
  rw [walkCondition_eq]
  exact (Simulation.ending ι lang).evaluate
    ((Simulation.ending ι lang).evaluateAtom (fun name _ => h name) fun _ _ => rfl) expression

/-- If the walks to stored keys go like steps, so does the walk through a template. -/
theorem walkHoles_once (h : ∀ key, scope.walkStored chain key = (ask key).once) (t : Template) :
    scope.walkHoles chain t = (scope.fillHoles ask t).once := by
  rw [walkHoles_eq, fillHoles_eq]
  exact (Simulation.ending ι lang).fillWith (walkCondition_once h) (walkKey_once h) t

end Ends

section Stored

variable {store : Store ι lang} {key : Text} {run : Run ι lang}

omit [DecidableEq ι] in
/-- A guard speaks up in a warning. -/
theorem isTrace_of_refusal {n : Note} (h : scope.refusal chain key = some n) :
    n.isTrace = false := by
  unfold refusal at h
  split at h
  · obtain rfl := Option.some.inj h
    rfl
  · split at h
    · obtain rfl := Option.some.inj h
      rfl
    · cases h

/-- A refused key leaves one warning and nothing else behind. -/
theorem walkStored_refused {n : Note} (hs : scope.store = some store)
    (h : scope.refusal chain key = some n) :
    scope.walkStored chain key run =
      some (none, { run with trail := .note n :: run.trail }) := by
  rw [walkStored, hs]
  simp [h, Step.said_of_not_trace _ (isTrace_of_refusal h)]

/-- The walk to a stored key is the expansion with the room between chain and limit. -/
theorem walkStored_eq (room : Nat) (chain : List Text)
    (hroom : (scope.maxDepth - chain.length).toNat = room) (key : Text) :
    scope.walkStored chain key = (scope.stored room chain key).once := by
  cases hs : scope.store with
  | none =>
    funext run
    rw [walkStored, hs, Step.once, stored_storeless hs]
    rfl
  | some store =>
  induction room generalizing chain key with
  | zero =>
    funext run
    by_cases hkey : Text.lower key ∈ chain
    · rw [walkStored_refused hs (if_pos hkey), Step.once, stored_cyclic hs hkey]
    · have deep : scope.refusal chain key = some (.tooDeep scope.maxDepth key) := by
        rw [refusal, if_neg hkey, if_pos (by omega)]
      rw [walkStored_refused hs deep, Step.once, stored_tooDeep hs hkey]
  | succ room ih =>
    funext run
    by_cases hkey : Text.lower key ∈ chain
    · rw [walkStored_refused hs (if_pos hkey), Step.once, stored_cyclic hs hkey]
    · have accepted : scope.refusal chain key = none := by
        rw [refusal, if_neg hkey, if_neg (by omega)]
      have hroom' : (scope.maxDepth - (chain ++ [Text.lower key]).length).toNat = room := by
        rw [List.length_append, List.length_singleton]
        omega
      have inner := walkHoles_once (ih (chain ++ [Text.lower key]) hroom')
      rw [walkStored, hs, Step.once]
      match fetched : Step.fetch store scope.language chain key run with
      | (none, after) =>
        rw [stored_unfetched hs hkey fetched]
        simp [accepted, fetched]
      | (some raw, after) =>
        match filled : scope.fillHoles (scope.stored room (chain ++ [Text.lower key]))
            (Template.read raw) after with
        | (value, after') =>
          rw [stored_fetched hs hkey fetched filled]
          simp [accepted, fetched, inner, filled]

/-- The walk through a call is the call. -/
theorem walk_eq (call : Call) : scope.walk call = (scope.serve call).once := by
  have stored (key : Text) : scope.walkStored [] key = (scope.ask key).once :=
    walkStored_eq _ [] (by simp) key
  cases call with
  | expand template =>
    rw [walk, walkHoles_once stored]
    rfl
  | expandKey key =>
    rw [walk, stored]
    rfl
  | judge expression =>
    rw [walk, walkCondition_once stored]
    rfl

end Stored

end Scope

/-- A lookup is made under a chain of different keys, which does not hold the key that is
looked up and is shorter than the limit. -/
def Event.Guarded (limit : Int) : Event ι lang → Prop
  | .lookup key _ chain => chain.Nodup ∧ Text.lower key ∉ chain ∧ (chain.length : Int) < limit
  | _ => True

namespace Scope

variable [DecidableEq ι]

theorem serve_guarded (scope : Scope ι lang) (call : Call) (run : Run ι lang)
    (h : ∀ e ∈ run.trail, e.Guarded scope.maxDepth) :
    ∀ e ∈ (scope.serve call run).2.trail, e.Guarded scope.maxDepth := by
  have primitives : (adding (Event.Guarded scope.maxDepth)).Primitives scope scope
      fun chain _ => chain.Nodup := by
    refine adding_primitives (fun _ => trivial) (fun _ _ _ => trivial)
      (fun _ _ hchain fresh hroom => ⟨hchain, fresh, hroom⟩) fun chain key _ hchain fresh _ => ?_
    rw [List.nodup_append]
    refine ⟨hchain, by simp, fun a ha b hb => ?_⟩
    rw [List.mem_singleton.1 hb]
    exact fun same => fresh (same ▸ ha)
  obtain ⟨more, trail, guarded⟩ :=
    primitives.serve call (fun _ _ => List.nodup_nil) (fun _ _ => List.nodup_nil) run
  rw [trail]
  exact List.forall_mem_append.2 ⟨guarded, h⟩

/-- **Every call ends, within the guards.** Whatever the store answers and whatever the limit
is, the recursion comes to an end at every call, and with what the call gives. A lookup is
made only under a chain of different keys that does not hold the key and is shorter than the
limit. A key that a guard refuses is not looked up and rolls nothing: the run goes on as it
was, with one warning more. -/
theorem serve_ends (scope : Scope ι lang) :
    (∀ call run, scope.walk call run = some (scope.serve call run)) ∧
      (∀ call pools draws, ∀ e ∈ (scope.serve call { pools, draws }).2.trail,
        e.Guarded scope.maxDepth) ∧
      ∀ store ∈ scope.store, ∀ chain key, ∀ n ∈ scope.refusal chain key, n.isTrace = false ∧
        ∀ run, scope.walkStored chain key run =
          some (none, { run with trail := .note n :: run.trail }) := by
  refine ⟨fun call run => ?_, fun call pools draws => ?_, fun store hs chain key n hn => ?_⟩
  · rw [walk_eq]
    rfl
  · exact serve_guarded scope call _ fun _ he => nomatch he
  · exact ⟨isTrace_of_refusal hn, fun run => walkStored_refused hs hn⟩

/-- A store in which every key names itself. -/
def cyclicScope : Scope Empty Unit where
  store := some fun key _ => some (.text ('{' :: '{' :: key ++ ['}', '}']))
  language := ()
  fields := []
  maxDepth := 3
  tracing := false

/-- A run without pools. -/
def poollessRun : Run Empty Unit :=
  { pools := fun place => (nomatch place), draws := .cycle [] }

/-- The only lookup of a key that names itself is made at the top; below it the key is
refused with a warning. -/
theorem serve_ends_cyclic :
    (∃ after, cyclicScope.walk (.expandKey ['a']) poollessRun =
      some (.stored (some ['a']), after)) ∧
    Event.Guarded 3 (.lookup ['a'] () [] : Event Empty Unit) ∧
    cyclicScope.walkStored [['a']] ['a'] poollessRun =
      some (none, { poollessRun with trail := [.note (.cyclic ['a'] [['a']])] }) := by
  obtain ⟨ends, guarded, refused⟩ := serve_ends cyclicScope
  refine ⟨⟨_, (ends _ _).trans (congrArg some (Prod.ext ?_ rfl))⟩, ?_, ?_⟩
  · decide +kernel
  · exact guarded (.expandKey ['a']) poollessRun.pools poollessRun.draws _ (by decide +kernel)
  · exact (refused _ rfl [['a']] ['a'] _ (by decide +kernel)).2 poollessRun

end Scope

end Phrasebook
