import Phrasebook.Proofs.Simulation
import Phrasebook.Proofs.Expansion.Steps

/-!
# Calls

A scope is called in three ways: to expand a template, to expand the stored text of a key,
and to judge a condition. `Scope.serve` answers any of them, so that what holds of every
call is said once.

`Simulation.Primitives` is how it is proved. If a simulation relates the primitive steps of
two scopes (saying something, reading and writing the memo, fetching from the store), it
relates their answers to every call. What is known of a fetch is known in general: its key
is admitted below its chain, the chain does not hold it, and there is room below the limit.
-/

namespace Phrasebook

/-- What a scope is called for. -/
inductive Call where
  | expand (template : Text)
  | expandKey (key : Text)
  | judge (expression : Text)
  deriving DecidableEq, Repr

/-- What a call is answered with. -/
inductive Answer where
  | text (value : Text)
  | stored (value : Option Text)
  | verdict (value : Option Bool)
  deriving DecidableEq, Repr

namespace Scope

variable {ι lang : Type} [DecidableEq ι]

/-- Answer a call. -/
def serve (scope : Scope ι lang) : Call → Step ι lang Answer
  | .expand template => return .text (← scope.expand template)
  | .expandKey key => return .stored (← scope.expandKey key)
  | .judge expression => return .verdict (← scope.judge expression)

end Scope

namespace Simulation

variable {ι ι' lang lang' : Type}

section Scopes

variable {s : Scope ι lang} {s' : Scope ι' lang'}
variable {ask : Text → Step ι lang (Option Text)} {ask' : Text → Step ι' lang' (Option Text)}

theorem judge (R : Simulation (Step ι lang) (Step ι' lang')) (hfields : s.fields = s'.fields)
    (hask : ∀ name, Field.find? name s.fields = none → R.Rel (ask name) (ask' name))
    (hsay : ∀ n, R.Rel (Step.say s.tracing n) (Step.say s'.tracing n)) (expression : Text) :
    R.Rel (s.evaluate ask expression) (s'.evaluate ask' expression) := by
  unfold Scope.evaluate
  rw [← hfields]
  exact R.evaluate (R.evaluateAtom hask fun condition verdict => hsay _) expression

theorem fillKey (R : Simulation (Step ι lang) (Step ι' lang')) (hfields : s.fields = s'.fields)
    {key : Text} (hmemoized : R.Rel (Step.memoized key) (Step.memoized key))
    (hmemoize : ∀ value, R.Rel (Step.memoize key value) (Step.memoize key value))
    (hask : Field.find? key s.fields = none → R.Rel (ask key) (ask' key))
    (hsay : R.Rel (Step.say s.tracing (.unresolved key)) (Step.say s'.tracing (.unresolved key))) :
    R.Rel (s.fillKey ask key) (s'.fillKey ask' key) := by
  have resolved : R.Rel (s.resolve ask key) (s'.resolve ask' key) := by
    refine R.bind hmemoized fun held => ?_
    cases held with
    | some value => exact R.pure _
    | none =>
      simp only [← hfields]
      cases field : Field.find? key s.fields with
      | some value => exact R.pure _
      | none => exact hask field
  refine R.bind resolved fun value => ?_
  cases value with
  | some value => exact R.bind (hmemoize value) fun _ => R.pure value
  | none => exact R.bind hsay fun _ => R.pure key

end Scopes

variable [DecidableEq ι] [DecidableEq ι']

/-- The primitive steps of two scopes are related, as far as the store is asked for keys that
are admitted below a chain: whatever is asked for inside the stored text of an admitted key
is admitted below it. -/
structure Primitives (R : Simulation (Step ι lang) (Step ι' lang')) (s : Scope ι lang)
    (s' : Scope ι' lang') (Admits : List Text → Text → Prop) : Prop where
  fields : s.fields = s'.fields
  maxDepth : s.maxDepth = s'.maxDepth
  stores : s.store.isSome = s'.store.isSome
  say : ∀ n, R.Rel (Step.say s.tracing n) (Step.say s'.tracing n)
  memoized : ∀ key, R.Rel (Step.memoized key) (Step.memoized key)
  memoize : ∀ key value, R.Rel (Step.memoize key value) (Step.memoize key value)
  fetch : ∀ store ∈ s.store, ∀ store' ∈ s'.store, ∀ chain key, Admits chain key →
    Text.lower key ∉ chain → (chain.length : Int) < s.maxDepth →
    R.Rel (Step.fetch store s.language chain key) (Step.fetch store' s'.language chain key)
  below : ∀ chain key name, Admits chain key → Text.lower key ∉ chain →
    Field.find? name s.fields = none → Admits (chain ++ [Text.lower key]) name

variable {R : Simulation (Step ι lang) (Step ι' lang')} {s : Scope ι lang} {s' : Scope ι' lang'}
variable {Admits : List Text → Text → Prop}

/-- Related primitives answer related for every admitted key. The induction is on the room
that is left; room and chain together make up the limit. -/
theorem Primitives.stored (P : R.Primitives s s' Admits) (room : Nat) (chain : List Text)
    (hroom : chain.length + room = s.maxDepth.toNat) (key : Text) (hkey : Admits chain key) :
    R.Rel (s.stored room chain key) (s'.stored room chain key) := by
  cases hs : s.store with
  | none =>
    have hs' : s'.store = none := by simpa [hs] using P.stores.symm
    have missing : s.stored room chain key = Pure.pure none :=
      funext fun _ => Scope.stored_storeless hs
    have missing' : s'.stored room chain key = Pure.pure none :=
      funext fun _ => Scope.stored_storeless hs'
    rw [missing, missing']
    exact R.pure none
  | some store =>
  obtain ⟨store', hs'⟩ : ∃ store', s'.store = some store' :=
    Option.isSome_iff_exists.1 (by rw [← P.stores, hs]; rfl)
  induction room generalizing chain key with
  | zero =>
    unfold Scope.stored
    simp only [hs, hs', P.maxDepth]
    split
    · exact R.bind (P.say _) fun _ => R.pure none
    · exact R.bind (P.say _) fun _ => R.pure none
  | succ room ih =>
    unfold Scope.stored
    simp only [hs, hs']
    split
    · exact R.bind (P.say _) fun _ => R.pure none
    · next fresh =>
      refine R.bind (P.fetch store hs store' hs' chain key hkey fresh (by omega)) fun raw => ?_
      cases raw with
      | none => exact R.pure none
      | some raw =>
        have hroom' : (chain ++ [Text.lower key]).length + room = s.maxDepth.toNat := by
          rw [List.length_append, List.length_singleton]
          omega
        have inner (name : Text) (field : Field.find? name s.fields = none) :
            R.Rel (s.stored room (chain ++ [Text.lower key]) name)
              (s'.stored room (chain ++ [Text.lower key]) name) :=
          ih _ hroom' name (P.below chain key name hkey fresh field)
        have filled := R.fillWith (R.judge P.fields inner P.say)
          (fun name => R.fillKey P.fields (P.memoized name) (P.memoize name) (inner name)
            (P.say _)) (Template.read raw)
        rw [← Scope.fillHoles_eq, ← Scope.fillHoles_eq] at filled
        exact R.bind filled fun value => R.bind (P.say _) fun _ => R.pure (some value)

/-- Related primitives fill a template alike below a chain that admits its keys. -/
theorem Primitives.fillHoles (P : R.Primitives s s' Admits) (room : Nat) (chain : List Text)
    (hroom : chain.length + room = s.maxDepth.toNat)
    (admitted : ∀ name, Field.find? name s.fields = none → Admits chain name) (t : Template) :
    R.Rel (s.fillHoles (s.stored room chain) t) (s'.fillHoles (s'.stored room chain) t) := by
  have ask (name : Text) (field : Field.find? name s.fields = none) :
      R.Rel (s.stored room chain name) (s'.stored room chain name) :=
    P.stored room chain hroom name (admitted name field)
  rw [Scope.fillHoles_eq, Scope.fillHoles_eq]
  exact R.fillWith (R.judge P.fields ask P.say)
    (fun name => R.fillKey P.fields (P.memoized name) (P.memoize name) (ask name) (P.say _)) t

/-- Related primitives answer every call alike, if the keys that it may ask for at the top
are admitted there. -/
theorem Primitives.serve (P : R.Primitives s s' Admits) (call : Call)
    (top : ∀ name, Field.find? name s.fields = none → Admits [] name)
    (requested : ∀ key, call = .expandKey key → Admits [] key) :
    R.Rel (s.serve call) (s'.serve call) := by
  have admitted (key : Text) (hkey : Admits [] key) : R.Rel (s.ask key) (s'.ask key) := by
    unfold Scope.ask
    rw [← P.maxDepth]
    exact P.stored _ [] (Nat.zero_add _) key hkey
  cases call with
  | expand template =>
    have filled := P.fillHoles _ [] (Nat.zero_add _) top (Template.read template)
    refine R.bind ?_ fun value => R.pure (Answer.text value)
    unfold Scope.expand Scope.ask
    rwa [← P.maxDepth]
  | expandKey key =>
    exact R.bind (admitted key (requested key rfl)) fun value => R.pure (Answer.stored value)
  | judge expression =>
    have judged := R.judge P.fields (fun name field => admitted name (top name field)) P.say
    exact R.bind (judged expression) fun value => R.pure (Answer.verdict value)

end Simulation

namespace Scope

variable {ι lang : Type} [DecidableEq ι]

/-- Actions that put only events with a property on the trail. -/
def adding (Q : Event ι lang → Prop) : Simulation (Step ι lang) (Step ι lang) :=
  .ofKept (fun act => ∀ run, ∃ more, (act run).2.trail = more ++ run.trail ∧ ∀ e ∈ more, Q e)
    (fun _ _ => ⟨[], rfl, List.forall_mem_nil _⟩) fun {_ _ x f} hx hf run => by
      obtain ⟨more, first, hmore⟩ := hx run
      obtain ⟨later, second, hlater⟩ := hf (x run).1 (x run).2
      refine ⟨later ++ more, ?_, List.forall_mem_append.2 ⟨hlater, hmore⟩⟩
      rw [Step.bind_run, second, first, List.append_assoc]

omit [DecidableEq ι] in
theorem adding_say {Q : Event ι lang → Prop} {n : Note} (h : Q (.note n)) (tracing : Bool) :
    (adding Q).Keeps (Step.say tracing n) := by
  intro run
  rw [Step.say_run, Step.said]
  split
  · exact ⟨[], rfl, List.forall_mem_nil _⟩
  · exact ⟨[.note n], rfl, List.forall_mem_singleton.2 h⟩

/-- Fetching asks the store, and may roll a pool then. -/
theorem fetch_trail (store : Store ι lang) (language : lang) (chain : List Text) (key : Text)
    (run : Run ι lang) :
    ∃ rolls, (Step.fetch store language chain key run).2.trail =
        rolls ++ .lookup key language chain :: run.trail ∧
      ∀ e ∈ rolls, ∃ place picked, e = .roll key place picked := by
  cases found : store key language with
  | none =>
    rw [Step.fetch_missing found]
    exact ⟨[], rfl, List.forall_mem_nil _⟩
  | some held =>
    cases held with
    | text raw =>
      rw [Step.fetch_text found]
      exact ⟨[], rfl, List.forall_mem_nil _⟩
    | pool place =>
      rw [Step.fetch_pool found]
      exact ⟨[.roll key place _], rfl, List.forall_mem_singleton.2 ⟨place, _, rfl⟩⟩

theorem trail_suffix_fetch (store : Store ι lang) (language : lang) (chain : List Text)
    (key : Text) (run : Run ι lang) :
    run.trail <:+ (Step.fetch store language chain key run).2.trail := by
  obtain ⟨rolls, trail, -⟩ := fetch_trail store language chain key run
  rw [trail]
  exact (List.suffix_cons _ _).trans (List.suffix_append _ _)

/-- The primitive steps of a scope add events with a property, if notes and rolls have it and so
have the lookups that the guards let pass. -/
theorem adding_primitives {scope : Scope ι lang} {Q : Event ι lang → Prop}
    {Admits : List Text → Text → Prop}
    (hnote : ∀ n, Q (.note n)) (hroll : ∀ key place picked, Q (.roll key place picked))
    (hlookup : ∀ chain key, Admits chain key → Text.lower key ∉ chain →
      (chain.length : Int) < scope.maxDepth → Q (.lookup key scope.language chain))
    (below : ∀ chain key name, Admits chain key → Text.lower key ∉ chain →
      Field.find? name scope.fields = none → Admits (chain ++ [Text.lower key]) name) :
    (adding Q).Primitives scope scope Admits := by
  have silent {α : Type} {act : Step ι lang α} (h : ∀ run, (act run).2.trail = run.trail) :
      (adding Q).Keeps act := fun run => ⟨[], h run, List.forall_mem_nil _⟩
  refine ⟨rfl, rfl, rfl, fun n => adding_say (hnote n) scope.tracing, fun _ => silent fun _ => rfl,
    fun _ _ => silent fun _ => rfl, ?_, below⟩
  intro store _ _ _ chain key hkey fresh hroom run
  obtain ⟨rolls, trail, hrolls⟩ := fetch_trail store scope.language chain key run
  refine ⟨rolls ++ [.lookup key scope.language chain], ?_, ?_⟩
  · rw [trail, List.append_assoc]
    rfl
  · refine List.forall_mem_append.2 ⟨fun e he => ?_,
      List.forall_mem_singleton.2 (hlookup chain key hkey fresh hroom)⟩
    obtain ⟨place, picked, rfl⟩ := hrolls e he
    exact hroll key place picked

end Scope

end Phrasebook
