import Phrasebook.Proofs.Expansion.Call

/-!
# The holes that a call fills

The trail of a run says what the store was asked for and what was said, but not what the holes
were filled with. A watched call goes like the call itself and enters every hole that it fills
into a book, on whatever level of nesting (`Scope.watch`). The book is all that it adds: answer
and run are those of the call (`watch_eq`).

A hole is entered under the key that it asks for in the end. For a choice that is the key that
was chosen, and a choice of nothing fills no hole.
-/

namespace Phrasebook

variable {ι lang : Type}

/-- A hole that was filled: its key, the text, and the run before and after. -/
structure Filling (ι lang : Type) where
  key : Text
  text : Text
  before : Run ι lang
  after : Run ι lang

/-- A run and the holes that were filled in it, the last one first. -/
structure Watched (ι lang : Type) where
  run : Run ι lang
  filled : List (Filling ι lang) := []

/-- An action on a watched run. -/
abbrev Watch (ι lang : Type) := StateM (Watched ι lang)

/-- A step that fills no hole. -/
def Step.watched {α : Type} (act : Step ι lang α) : Watch ι lang α := fun w =>
  ((act w.run).1, { w with run := (act w.run).2 })

/-- A hole that was filled is entered into the book. -/
def Watched.enter (w : Watched ι lang) (key text : Text) (before : Run ι lang) : Watched ι lang :=
  { w with filled := ⟨key, text, before, w.run⟩ :: w.filled }

/-- The value of a key is put into the memo. -/
def Watched.memoize (w : Watched ι lang) (key value : Text) : Watched ι lang :=
  { w with run := { w.run with memo := (key, value) :: w.run.memo } }

/-- Fill a hole and enter it into the book. -/
def Watch.enter (key : Text) (act : Watch ι lang Text) : Watch ι lang Text := fun w =>
  ((act w).1, (act w).2.enter key (act w).1 w.run)

namespace Watch

@[simp] theorem pure_run {α : Type} (a : α) (w : Watched ι lang) :
    (pure a : Watch ι lang α) w = (a, w) := rfl

@[simp] theorem bind_run {α β : Type} (x : Watch ι lang α) (f : α → Watch ι lang β)
    (w : Watched ι lang) : (x >>= f) w = f (x w).1 (x w).2 := rfl

@[simp] theorem map_run {α β : Type} (f : α → β) (x : Watch ι lang α) (w : Watched ι lang) :
    (f <$> x) w = (f (x w).1, (x w).2) := rfl

@[simp] theorem watched_run {α : Type} (act : Step ι lang α) (w : Watched ι lang) :
    act.watched w = ((act w.run).1, { w with run := (act w.run).2 }) := rfl

end Watch

namespace Scope

section Filling

variable (scope : Scope ι lang) (ask : Text → Watch ι lang (Option Text))

/-- The verdict on a condition, watched. -/
def watchCondition (expression : Text) : Watch ι lang (Option Bool) :=
  Condition.evaluate scope.fields (some ask)
    (fun condition verdict => (Step.say scope.tracing (.decided condition verdict)).watched)
    expression

/-- The value of a key, watched. -/
def watchValue (key : Text) : Watch ι lang (Option Text) := do
  match ← (Step.memoized key).watched with
  | some value => return some value
  | none =>
    match Field.find? key scope.fields with
    | some value => return some value.wording
    | none => ask key

/-- What a hole with a plain key is filled with, watched. -/
def watchKey (key : Text) : Watch ι lang Text := .enter key do
  match ← scope.watchValue ask key with
  | some value =>
    (Step.memoize key value).watched
    return value
  | none =>
    (Step.say scope.tracing (.unresolved key)).watched
    return key

/-- Fill the holes of a template, watched. -/
def watchHoles (t : Template) : Watch ι lang Text :=
  t.fillWith (scope.watchCondition ask) (scope.watchKey ask)

end Filling

section Keys

variable {scope : Scope ι lang} {ask : Text → Watch ι lang (Option Text)} {key : Text}
variable {w : Watched ι lang}

theorem watchKey_held {value : Text} (held : w.run.memo.lookup key = some value) :
    scope.watchKey ask key w =
      (value, (w.memoize key value).enter key value w.run) := by
  simp [watchKey, watchValue, Watch.enter, Watched.memoize, held]

theorem watchKey_field {v : Scalar} (held : w.run.memo.lookup key = none)
    (field : Field.find? key scope.fields = some v) :
    scope.watchKey ask key w =
      (v.wording, (w.memoize key v.wording).enter key v.wording w.run) := by
  simp [watchKey, watchValue, Watch.enter, Watched.memoize, held, field]

theorem watchKey_stored {value : Text} {after : Watched ι lang}
    (held : w.run.memo.lookup key = none) (field : Field.find? key scope.fields = none)
    (asked : ask key w = (some value, after)) :
    scope.watchKey ask key w =
      (value, (after.memoize key value).enter key value w.run) := by
  simp [watchKey, watchValue, Watch.enter, Watched.memoize, held, field, asked]

theorem watchKey_missing {after : Watched ι lang} (held : w.run.memo.lookup key = none)
    (field : Field.find? key scope.fields = none) (asked : ask key w = (none, after)) :
    scope.watchKey ask key w =
      (key, Watched.enter { after with run := Step.said scope.tracing (.unresolved key) after.run }
        key key w.run) := by
  simp [watchKey, watchValue, Watch.enter, held, field, asked]

end Keys

variable [DecidableEq ι]

/-- The expansion of a stored key, watched. -/
def watchStored (scope : Scope ι lang) (room : Nat) (chain : List Text) (key : Text) :
    Watch ι lang (Option Text) :=
  match scope.store with
  | none => return none
  | some store =>
    if chain.contains (Text.lower key) then do
      (Step.say scope.tracing (.cyclic key chain)).watched
      return none
    else
      match room with
      | 0 => do
        (Step.say scope.tracing (.tooDeep scope.maxDepth key)).watched
        return none
      | room + 1 => do
        match ← (Step.fetch store scope.language chain key).watched with
        | none => return none
        | some raw =>
          let value ← scope.watchHoles
            (fun k => scope.watchStored room (chain ++ [Text.lower key]) k) (Template.read raw)
          (Step.say scope.tracing (.resolved key chain.length)).watched
          return some value

/-- Answer a call, watched. -/
def watch (scope : Scope ι lang) (call : Call) : Watch ι lang Answer :=
  let ask := scope.watchStored scope.maxDepth.toNat []
  match call with
  | .expand template => return .text (← scope.watchHoles ask (Template.read template))
  | .expandKey key => return .stored (← ask key)
  | .judge expression => return .verdict (← scope.watchCondition ask expression)

end Scope

/-- A watched action goes like a step. -/
def Simulation.watching (ι lang : Type) : Simulation (Step ι lang) (Watch ι lang) where
  Rel x y := ∀ w, (y w).1 = (x w.run).1 ∧ (y w).2.run = (x w.run).2
  pure _ _ := ⟨rfl, rfl⟩
  bind {_ _ x y f g} hx hf w := by
    obtain ⟨answer, run⟩ := hx w
    rw [Watch.bind_run, Step.bind_run, ← answer, ← run]
    exact hf _ _

namespace Scope

section Filling

variable {scope : Scope ι lang} {ask : Text → Step ι lang (Option Text)}
variable {ask' : Text → Watch ι lang (Option Text)}

theorem watching_watched {α : Type} (act : Step ι lang α) :
    (Simulation.watching ι lang).Rel act act.watched := fun _ => ⟨rfl, rfl⟩

theorem watching_condition (h : ∀ key, (Simulation.watching ι lang).Rel (ask key) (ask' key))
    (expression : Text) :
    (Simulation.watching ι lang).Rel (scope.evaluate ask expression)
      (scope.watchCondition ask' expression) := by
  apply Simulation.evaluate
  intro condition
  exact Simulation.evaluateAtom _ (fun name _ => h name) (fun _ _ => watching_watched _) condition

theorem watching_key (h : ∀ key, (Simulation.watching ι lang).Rel (ask key) (ask' key))
    (key : Text) :
    (Simulation.watching ι lang).Rel (scope.fillKey ask key) (scope.watchKey ask' key) := by
  have value : (Simulation.watching ι lang).Rel (scope.resolve ask key)
      (scope.watchValue ask' key) := by
    apply Simulation.bind _ (watching_watched (Step.memoized key))
    intro held
    cases held with
    | some value => exact Simulation.pure _ _
    | none =>
      dsimp only
      cases Field.find? key scope.fields with
      | some v => exact Simulation.pure _ _
      | none => exact h key
  apply Simulation.bind _ value
  intro found
  cases found with
  | some value =>
    exact Simulation.bind _ (watching_watched _) fun _ => Simulation.pure _ value
  | none => exact Simulation.bind _ (watching_watched _) fun _ => Simulation.pure _ key

theorem watching_holes (h : ∀ key, (Simulation.watching ι lang).Rel (ask key) (ask' key))
    (t : Template) :
    (Simulation.watching ι lang).Rel (scope.fillHoles ask t) (scope.watchHoles ask' t) := by
  rw [fillHoles_eq]
  exact Simulation.fillWith _ (watching_condition h) (watching_key h) t

end Filling

variable [DecidableEq ι]

/-- A stored key goes watched as it goes. The induction is on the room that is left. -/
theorem watching_stored (scope : Scope ι lang) (room : Nat) (chain : List Text) (key : Text) :
    (Simulation.watching ι lang).Rel (scope.stored room chain key)
      (scope.watchStored room chain key) := by
  let R := Simulation.watching ι lang
  cases hs : scope.store with
  | none =>
    unfold stored watchStored
    simp only [hs]
    exact R.pure none
  | some store =>
  have refused (n : Note) : R.Rel (do Step.say scope.tracing n; return (none : Option Text))
      (do (Step.say scope.tracing n).watched; return none) :=
    R.bind (watching_watched _) fun _ => R.pure none
  induction room generalizing chain key with
  | zero =>
    unfold stored watchStored
    simp only [hs, List.contains_iff_mem]
    split
    · exact refused _
    · exact refused _
  | succ room ih =>
    unfold stored watchStored
    simp only [hs, List.contains_iff_mem]
    split
    · exact refused _
    · apply R.bind (watching_watched (Step.fetch store scope.language chain key))
      intro fetched
      cases fetched with
      | none => exact R.pure none
      | some raw =>
        apply R.bind (watching_holes (fun name => ih _ name) (Template.read raw))
        intro value
        exact R.bind (watching_watched _) fun _ => R.pure (some value)

/-- A watched call is the call, but for its book. -/
theorem watch_eq (scope : Scope ι lang) (call : Call) (w : Watched ι lang) :
    (scope.watch call w).1 = (scope.serve call w.run).1 ∧
      (scope.watch call w).2.run = (scope.serve call w.run).2 := by
  have ask : ∀ key, (Simulation.watching ι lang).Rel (scope.ask key)
      (scope.watchStored scope.maxDepth.toNat [] key) := watching_stored scope _ []
  cases call with
  | expand template =>
    exact (Simulation.watching ι lang).bind (watching_holes ask _)
      (fun value => Simulation.pure _ (Answer.text value)) w
  | expandKey key =>
    exact (Simulation.watching ι lang).bind (ask key)
      (fun value => Simulation.pure _ (Answer.stored value)) w
  | judge expression =>
    exact (Simulation.watching ι lang).bind (watching_condition ask _)
      (fun value => Simulation.pure _ (Answer.verdict value)) w

end Scope

end Phrasebook
