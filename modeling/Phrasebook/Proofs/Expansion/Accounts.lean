import Phrasebook.Proofs.Expansion.Call

/-!
# Accounts of a key

All holes that name a key share what the first of them found, because it leaves that in the
memo. Conditions do not look there: each one asks the store for its name again. So a call
balances its books for every key that is bound to a pool and to no field (`serve_balance`).
The answers that the store gave for the key, rolls and refusals, are matched by those who
asked: the entry in the memo, the holes that found nothing, and the conditions on the bare
name. Everything here is about calls that trace, since only those put holes and conditions on
the trail.
-/

namespace Phrasebook

variable {ι lang : Type}

/-- Is the atom the bare name of a key? -/
def Condition.Atom.names (key : Text) : Condition.Atom → Bool
  | .bare name _ => name == key
  | .compare .. => false

theorem Condition.Atom.eq_bare_of_names {key : Text} {atom : Condition.Atom}
    (h : atom.names key = true) : ∃ invert, atom = .bare key invert := by
  cases atom with
  | compare => cases h
  | bare name invert => exact ⟨invert, by rw [eq_of_beq h]⟩

theorem Condition.isSome_negateIf (invert : Bool) (verdict : Option Bool) :
    (Condition.negateIf invert verdict).isSome = verdict.isSome := Option.isSome_map

namespace Event

/-- An answer for the key: a roll or a refusal. Idle ones, which brought nothing, are left out
unless they are wanted. -/
def answers (key : Text) (idle : Bool) : Event ι lang → Bool
  | .roll k _ picked => k == key && (idle || picked.isSome)
  | .note (.cyclic k _) => idle && k == key
  | .note (.tooDeep _ k) => idle && k == key
  | _ => false

/-- A condition on the bare name of the key or a hole that found nothing for it. Those that
had an idle answer are left out unless they are wanted. -/
def asks (key : Text) (idle : Bool) : Event ι lang → Bool
  | .note (.decided condition verdict) =>
    (Condition.Atom.read condition).names key && (idle || verdict.isSome)
  | .note (.unresolved k) => idle && k == key
  | _ => false

/-- What an event adds to the account of a key. -/
def weight (key : Text) (idle : Bool) (e : Event ι lang) : Int :=
  (if answers key idle e then 1 else 0) - if asks key idle e then 1 else 0

/-- What an answer adds, by whether it brought something. -/
def worth (idle found : Bool) : Int := if idle || found then 1 else 0

theorem worth_true (idle : Bool) : worth idle true = 1 := by
  cases idle <;> rfl

theorem weight_roll (key : Text) (idle : Bool) (name : Text) (place : ι) (picked : Option Text) :
    weight key idle (.roll name place picked : Event ι lang) =
      if name = key then worth idle picked.isSome else 0 := by
  by_cases h : name = key <;> simp [weight, answers, asks, worth, h]

theorem weight_cyclic (key : Text) (idle : Bool) (name : Text) (chain : List Text) :
    weight key idle (.note (.cyclic name chain) : Event ι lang) =
      if name = key then worth idle false else 0 := by
  by_cases h : name = key <;> simp [weight, answers, asks, worth, h]

theorem weight_tooDeep (key : Text) (idle : Bool) (limit : Int) (name : Text) :
    weight key idle (.note (.tooDeep limit name) : Event ι lang) =
      if name = key then worth idle false else 0 := by
  by_cases h : name = key <;> simp [weight, answers, asks, worth, h]

theorem weight_unresolved (key : Text) (idle : Bool) (name : Text) :
    weight key idle (.note (.unresolved name) : Event ι lang) =
      if name = key then -worth idle false else 0 := by
  by_cases h : name = key
  · cases idle <;> simp [weight, answers, asks, worth, h]
  · simp [weight, answers, asks, h]

theorem weight_decided (key : Text) (idle : Bool) (condition : Text) (verdict : Option Bool) :
    weight key idle (.note (.decided condition verdict) : Event ι lang) =
      if (Condition.Atom.read condition).names key then -worth idle verdict.isSome else 0 := by
  cases h : (Condition.Atom.read condition).names key with
  | false => simp [weight, answers, asks, h]
  | true => cases idle <;> cases verdict <;> simp [weight, answers, asks, worth, h]

end Event

namespace Run

/-- One if the memo holds the key. -/
def held (key : Text) (run : Run ι lang) : Nat := if (run.memo.lookup key).isSome then 1 else 0

/-- The account of a key: the answers for it without those who asked. All the holes that
found something stand in the memo as one. -/
def balance (key : Text) (idle : Bool) (run : Run ι lang) : Int :=
  run.count (Event.answers key idle) - run.count (Event.asks key idle) - run.held key

end Run

namespace Step

variable {key name : Text} {idle : Bool} {run : Run ι lang}

@[simp] theorem held_said (tracing : Bool) (n : Note) :
    (said tracing n run).held key = run.held key := by
  rw [Run.held, memo_said, Run.held]

theorem lookup_memoize_of_ne (h : name ≠ key) (run : Run ι lang) (value : Text) :
    List.lookup key ((name, value) :: run.memo) = run.memo.lookup key := by
  rw [List.lookup_cons, beq_eq_false_iff_ne.2 (Ne.symm h)]

theorem held_memoize_of_ne (h : name ≠ key) (run : Run ι lang) (value : Text) :
    Run.held key { run with memo := (name, value) :: run.memo } = run.held key := by
  rw [Run.held, lookup_memoize_of_ne h run value, Run.held]

theorem held_memoize_self (value : Text) :
    Run.held key { run with memo := (key, value) :: run.memo } = 1 := by
  simp [Run.held]

/-- The memo holds no more than before if a key that it holds is put there again. -/
theorem held_memoize_again (key : Text) {value : Text} (h : run.memo.lookup name = some value)
    (value' : Text) :
    Run.held key { run with memo := (name, value') :: run.memo } = run.held key := by
  by_cases hname : name = key
  · subst hname
    rw [held_memoize_self, Run.held, h]
    rfl
  · exact held_memoize_of_ne hname run value'

/-- An event that leaves the memo alone adds its weight. -/
theorem balance_cons {run' : Run ι lang} {e : Event ι lang} (htrail : run'.trail = e :: run.trail)
    (hmemo : run'.memo = run.memo) :
    run'.balance key idle = run.balance key idle + Event.weight key idle e := by
  simp only [Run.balance, Run.count, Run.held, htrail, hmemo, List.countP_cons, Event.weight]
  cases Event.answers key idle e <;> cases Event.asks key idle e <;>
    simp only [Bool.false_eq_true, if_false, if_true] <;> omega

theorem balance_noted (n : Note) :
    Run.balance key idle { run with trail := .note n :: run.trail } =
      run.balance key idle + Event.weight key idle (.note n : Event ι lang) :=
  balance_cons rfl rfl

theorem balance_said (n : Note) :
    (said true n run).balance key idle =
      run.balance key idle + Event.weight key idle (.note n : Event ι lang) := by
  rw [said_tracing, balance_noted]

theorem balance_asked (language : lang) (chain : List Text) :
    (asked language chain name run).balance key idle = run.balance key idle := by
  have cons : (asked language chain name run).balance key idle = run.balance key idle +
      Event.weight key idle (.lookup name language chain) := balance_cons rfl rfl
  rw [cons]
  exact Int.add_zero _

theorem balance_rolled [DecidableEq ι] (place : ι) :
    (rolled name place run).balance key idle = run.balance key idle +
      if name = key then Event.worth idle ((run.pools place).roll run.draws).1.isSome else 0 := by
  have cons : (rolled name place run).balance key idle = run.balance key idle +
      Event.weight key idle (.roll name place ((run.pools place).roll run.draws).1) :=
    balance_cons rfl rfl
  rw [cons, Event.weight_roll]

theorem balance_memoize (value : Text) :
    Run.balance key idle { run with memo := (name, value) :: run.memo } =
      run.balance key idle + run.held key -
        Run.held key { run with memo := (name, value) :: run.memo } := by
  have count (kind : Event ι lang → Bool) :
      Run.count kind { run with memo := (name, value) :: run.memo } = run.count kind := rfl
  rw [Run.balance, Run.balance, count, count]
  omega

end Step

/-- Actions that keep the account of a key in balance and, inside the expansion of the key,
do not put it into the memo. -/
def Simulation.accounted (ι lang : Type) (key : Text) (idle : Bool) (inside : Prop) :
    Simulation (Step ι lang) (Step ι lang) :=
  .ofKept (fun act => ∀ run, (act run).2.balance key idle = run.balance key idle ∧
      (inside → (act run).2.held key = run.held key))
    (fun _ _ => ⟨rfl, fun _ => rfl⟩)
    fun hx hf run =>
      ⟨(hf _ _).1.trans (hx run).1, fun h => ((hf _ _).2 h).trans ((hx run).2 h)⟩

/-- What asking the store for a name leaves behind. The answer is income if the name is the
key. The memo of the key is left alone if the name is the key or asks inside its expansion. -/
structure Answered (key : Text) (idle : Bool) (inside : Prop) (name : Text) (run : Run ι lang)
    (answer : Option Text × Run ι lang) : Prop where
  balance : answer.2.balance key idle =
    run.balance key idle + if name = key then Event.worth idle answer.1.isSome else 0
  held : name = key ∨ inside → answer.2.held key = run.held key

/-- A way to ask the store that keeps accounts of a key and, inside the expansion of the key,
refuses it. -/
structure Accounts (key : Text) (idle : Bool) (inside : Prop)
    (ask : Text → Step ι lang (Option Text)) : Prop where
  answered : ∀ name run, Answered key idle inside name run (ask name run)
  refused : inside → ∀ run, (ask key run).1 = none

namespace Accounts

variable {key : Text} {idle : Bool} {inside : Prop} {ask : Text → Step ι lang (Option Text)}

theorem own (h : Accounts key idle inside ask) (run : Run ι lang) :
    (ask key run).2.balance key idle =
      run.balance key idle + Event.worth idle (ask key run).1.isSome := by
  rw [(h.answered key run).balance, if_pos rfl]

theorem other (h : Accounts key idle inside ask) {name : Text} (hname : name ≠ key) :
    (Simulation.accounted ι lang key idle inside).Keeps (ask name) := by
  intro run
  rw [(h.answered name run).balance, if_neg hname, Int.add_zero]
  exact ⟨rfl, fun hin => (h.answered name run).held (.inr hin)⟩

theorem say (n : Note) (h : Event.weight key idle (.note n : Event ι lang) = 0) :
    (Simulation.accounted ι lang key idle inside).Keeps (Step.say true n) := by
  intro run
  rw [Step.say_run, Step.balance_said, h, Int.add_zero]
  exact ⟨rfl, fun _ => Step.held_said true n⟩

/-- A condition on the bare name pays for what it asked. -/
theorem evaluateAtom {fields : List (Option Field)} (h : Accounts key idle inside ask)
    (hfield : Field.find? key fields = none) (condition : Text) :
    (Simulation.accounted ι lang key idle inside).Keeps
      (Condition.evaluateAtom fields (some ask)
        (fun c verdict => Step.say true (.decided c verdict)) condition) := by
  cases named : (Condition.Atom.read condition).names key with
  | true =>
    obtain ⟨invert, atom⟩ := Condition.Atom.eq_bare_of_names named
    intro run
    have stored := h.own run
    simp only [Condition.evaluateAtom, Step.bind_run, Step.say_run, Step.pure_run, atom,
      Condition.Atom.decide, hfield, Step.balance_said, Step.held_said, Event.weight_decided]
    rw [if_pos (by simp [Condition.Atom.names]), Condition.isSome_negateIf, Option.isSome_map]
    exact ⟨by omega, fun _ => (h.answered key run).held (.inl rfl)⟩
  | false =>
    have free (verdict : Option Bool) :
        Event.weight key idle (.note (.decided condition verdict) : Event ι lang) = 0 := by
      simp [Event.weight_decided, named]
    let R := Simulation.accounted ι lang key idle inside
    refine R.bind ?_ fun verdict => R.bind (say _ (free verdict)) fun _ => R.pure verdict
    cases atom : Condition.Atom.read condition with
    | compare name literal differ => exact R.pure _
    | bare name invert =>
      have hne : name ≠ key := by simpa [atom, Condition.Atom.names] using named
      simp only [Condition.Atom.decide]
      cases Field.find? name fields with
      | some v => exact R.pure _
      | none => exact R.bind (h.other hne) fun stored => R.pure _

/-- A hole with the key pays for what it asked, by the memo or by a miss. -/
theorem fillKey_own {scope : Scope ι lang} (h : Accounts key idle inside ask)
    (htracing : scope.tracing = true) (hfield : Field.find? key scope.fields = none) :
    (Simulation.accounted ι lang key idle inside).Keeps (scope.fillKey ask key) := by
  intro run
  cases held : run.memo.lookup key with
  | some value =>
    have kept := Step.held_memoize_again key held value
    rw [Scope.fillKey_held held, Step.balance_memoize]
    exact ⟨by omega, fun _ => kept⟩
  | none =>
    have own := h.own run
    have fresh : run.held key = 0 := by simp [Run.held, held]
    have unheld := (h.answered key run).held (.inl rfl)
    match asked : ask key run with
    | (some value, after) =>
      simp only [asked, Option.isSome_some, Event.worth_true] at own unheld
      rw [Scope.fillKey_stored held hfield asked, Step.balance_memoize, Step.held_memoize_self]
      refine ⟨by omega, fun hin => ?_⟩
      exact absurd (h.refused hin run) (by simp [asked])
    | (none, after) =>
      simp only [asked, Option.isSome_none] at own unheld
      rw [Scope.fillKey_missing held hfield asked, htracing, Step.balance_said, Step.held_said,
        Event.weight_unresolved, if_pos rfl]
      exact ⟨by omega, fun _ => unheld⟩

theorem fillKey {scope : Scope ι lang} (h : Accounts key idle inside ask)
    (htracing : scope.tracing = true) (hfield : Field.find? key scope.fields = none) (name : Text) :
    (Simulation.accounted ι lang key idle inside).Keeps (scope.fillKey ask name) := by
  by_cases hname : name = key
  · subst hname
    exact h.fillKey_own htracing hfield
  · let R := Simulation.accounted ι lang key idle inside
    refine R.fillKey rfl (fun _ => ⟨rfl, fun _ => rfl⟩) (fun value run => ?_)
      (fun _ => h.other hname) ?_
    · have kept := Step.held_memoize_of_ne hname run value
      refine ⟨?_, fun _ => kept⟩
      rw [Step.memoize_run, Step.balance_memoize]
      omega
    · rw [htracing]
      exact say _ (by rw [Event.weight_unresolved, if_neg hname])

theorem judge {scope : Scope ι lang} (h : Accounts key idle inside ask)
    (htracing : scope.tracing = true) (hfield : Field.find? key scope.fields = none)
    (expression : Text) :
    (Simulation.accounted ι lang key idle inside).Keeps (scope.evaluate ask expression) := by
  unfold Scope.evaluate
  rw [htracing]
  exact Simulation.evaluate _ (h.evaluateAtom hfield) expression

theorem fillHoles {scope : Scope ι lang} (h : Accounts key idle inside ask)
    (htracing : scope.tracing = true) (hfield : Field.find? key scope.fields = none)
    (t : Template) :
    (Simulation.accounted ι lang key idle inside).Keeps (scope.fillHoles ask t) := by
  rw [Scope.fillHoles_eq]
  exact Simulation.fillWith _ (h.judge htracing hfield) (h.fillKey htracing hfield) t

end Accounts

/-- A refusal is an answer for the name that is refused. -/
theorem Answered.noted {key name : Text} {idle : Bool} {inside : Prop} {n : Note}
    (run : Run ι lang) (h : Event.weight key idle (.note n : Event ι lang) =
      if name = key then Event.worth idle false else 0) :
    Answered key idle inside name run (none, { run with trail := .note n :: run.trail }) where
  balance := (Step.balance_noted n).trans (congrArg (run.balance key idle + ·) h)
  held _ := rfl

section Pools

variable [DecidableEq ι] {store : Store ι lang} {key : Text} {place : ι} {idle : Bool}
variable {scope : Scope ι lang}

theorem Answered.fetch {language : lang} {inside : Prop}
    (hpool : store key language = some (.pool place)) (chain : List Text) (name : Text)
    (run : Run ι lang) :
    Answered key idle inside name run (Step.fetch store language chain name run) := by
  match found : store name language with
  | none =>
    have hname : name ≠ key := fun h => by simp [h, hpool] at found
    rw [Step.fetch_missing found]
    exact ⟨by rw [Step.balance_asked, if_neg hname, Int.add_zero], fun _ => rfl⟩
  | some (.text raw) =>
    have hname : name ≠ key := fun h => by simp [h, hpool] at found
    rw [Step.fetch_text found]
    exact ⟨by rw [Step.balance_asked, if_neg hname, Int.add_zero], fun _ => rfl⟩
  | some (.pool p) =>
    rw [Step.fetch_pool found, Step.roll_run]
    exact ⟨by rw [Step.balance_rolled, Step.balance_asked], fun _ => rfl⟩

namespace Scope

/-- The store keeps accounts of a key that is bound to a pool, on every level. The induction
is on the room that is left: what was fetched for a name is expanded one level below, where
the accounts are kept already. -/
theorem stored_accounts (hstore : scope.store = some store)
    (hpool : store key scope.language = some (.pool place)) (htracing : scope.tracing = true)
    (hfield : Field.find? key scope.fields = none) (room : Nat) (chain : List Text) :
    Accounts key idle (Text.lower key ∈ chain) (scope.stored room chain) := by
  induction room generalizing chain with
  | zero =>
    refine ⟨fun name run => ?_, fun hin run => by rw [stored_cyclic hstore hin]⟩
    by_cases hname : Text.lower name ∈ chain
    · rw [stored_cyclic hstore hname]
      exact .noted run (Event.weight_cyclic key idle name chain)
    · rw [stored_tooDeep hstore hname]
      exact .noted run (Event.weight_tooDeep key idle _ name)
  | succ room ih =>
    refine ⟨fun name run => ?_, fun hin run => by rw [stored_cyclic hstore hin]⟩
    by_cases hname : Text.lower name ∈ chain
    · rw [stored_cyclic hstore hname]
      exact .noted run (Event.weight_cyclic key idle name chain)
    · have fetched : Answered key idle (Text.lower key ∈ chain) name run _ :=
        .fetch hpool chain name run
      match hfetch : Step.fetch store scope.language chain name run with
      | (none, after) =>
        rw [hfetch] at fetched
        rwa [stored_unfetched hstore hname hfetch]
      | (some raw, after) =>
        have below := (ih (chain ++ [Text.lower name])).fillHoles htracing hfield
          (Template.read raw) after
        match hfill : scope.fillHoles (scope.stored room (chain ++ [Text.lower name]))
            (Template.read raw) after with
        | (value, after') =>
          rw [hfetch] at fetched
          rw [hfill] at below
          rw [stored_fetched hstore hname hfetch hfill, htracing]
          refine ⟨?_, fun hin => ?_⟩
          · rw [Step.balance_said, below.1, fetched.balance]
            exact Int.add_zero _
          · rw [Step.held_said, below.2, fetched.held hin]
            rcases hin with rfl | hin
            · exact List.mem_append_right _ (List.mem_singleton_self _)
            · exact List.mem_append_left _ hin

/-- A call balances its books for a key that is bound to a pool and to no field, unless it is
made for that key. -/
theorem serve_balance (scope : Scope ι lang) (hstore : scope.store = some store)
    (hpool : store key scope.language = some (.pool place)) (htracing : scope.tracing = true)
    (hfield : Field.find? key scope.fields = none) {call : Call} (hcall : call ≠ .expandKey key)
    (run : Run ι lang) :
    (scope.serve call run).2.balance key idle = run.balance key idle := by
  have accounts : Accounts key idle (Text.lower key ∈ []) scope.ask :=
    stored_accounts hstore hpool htracing hfield scope.maxDepth.toNat []
  cases call with
  | expand template => exact (accounts.fillHoles htracing hfield _ run).1
  | expandKey name => exact (accounts.other (fun h => hcall (h ▸ rfl)) run).1
  | judge expression => exact (accounts.judge htracing hfield expression run).1

end Scope

end Pools

end Phrasebook
