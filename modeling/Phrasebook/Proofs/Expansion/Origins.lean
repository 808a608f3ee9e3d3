import Phrasebook.Proofs.Expansion.Call
import Phrasebook.Proofs.Pool.Roll

/-!
# Where the texts of an expansion come from

Whatever is used as a key, a hole or a condition during a call is a stretch of the text that
the call was made with, or of a raw text that the run had read before: one that the store
holds for a key it was asked for, or one that a pool was rolled for (`Origin`). The texts of
fields never are, wherever they stand in the answer (`serve_origins`).

The invariant of a run (`Traced`) is that every event on its trail, and every entry of its
memo, is about a text with an origin in the older part of the trail. Inside one text the
invariant is kept as long as all stretches of that text have an origin, which is a simulation
(`reading`). A fetched text has been read, so its stretches have one, and an induction on the
room below the limit goes from text to text.
-/

namespace Phrasebook

variable {ι lang : Type}

/-- The text that a note is about. -/
def Note.subject : Note → Text
  | .cyclic key _ | .tooDeep _ key | .unresolved key | .resolved key _ => key
  | .decided condition _ => condition

/-- The text that an event is about: a key, or a condition. -/
def Event.subject : Event ι lang → Text
  | .lookup key _ _ | .roll key _ _ => key
  | .note n => n.subject

namespace Call

/-- The text that a call is made with. -/
def text : Call → Text
  | .expand template => template
  | .expandKey key => key
  | .judge expression => expression

/-- What a call brings along to be used: the stretches of a template or of a condition, and of
a requested key nothing but the key. -/
def Brings : Call → Text → Prop
  | .expand template, name => name <:+: template
  | .expandKey key, name => name = key
  | .judge expression, name => name <:+: expression

theorem Brings.infix_text {call : Call} {name : Text} (h : call.Brings name) :
    name <:+: call.text := by
  cases call with
  | expand template => exact h
  | expandKey key =>
    obtain rfl : name = key := h
    exact List.infix_refl _
  | judge expression => exact h

end Call

namespace Scope

/-- A raw text of the store: what it holds for some key, or a candidate of a pool. -/
def Holds (scope : Scope ι lang) (pools : ι → Pool) (raw : Text) : Prop :=
  ∃ store ∈ scope.store, ∃ key, store key scope.language = some (.text raw) ∨
    ∃ place, store key scope.language = some (.pool place) ∧ raw ∈ (pools place).candidates

/-- A raw text was read: the store was asked for a key that holds it, or it was rolled from
the pool of a key. -/
def Reads (scope : Scope ι lang) (pools : ι → Pool) (trail : List (Event ι lang)) (raw : Text) :
    Prop :=
  ∃ store ∈ scope.store, ∃ key,
    (store key scope.language = some (.text raw) ∧
      ∃ chain, .lookup key scope.language chain ∈ trail) ∨
    ∃ place, store key scope.language = some (.pool place) ∧ raw ∈ (pools place).candidates ∧
      .roll key place (some raw) ∈ trail

theorem Reads.holds {scope : Scope ι lang} {pools : ι → Pool} {trail : List (Event ι lang)}
    {raw : Text} (h : scope.Reads pools trail raw) : scope.Holds pools raw := by
  obtain ⟨store, hs, key, ⟨found, -⟩ | ⟨place, found, candidate, -⟩⟩ := h
  · exact ⟨store, hs, key, .inl found⟩
  · exact ⟨store, hs, key, .inr ⟨place, found, candidate⟩⟩

theorem Reads.mono {scope : Scope ι lang} {pools : ι → Pool} {trail trail' : List (Event ι lang)}
    {raw : Text} (h : scope.Reads pools trail raw) (more : trail <:+ trail') :
    scope.Reads pools trail' raw := by
  obtain ⟨store, hs, key, ⟨found, chain, asked⟩ | ⟨place, found, candidate, rolled⟩⟩ := h
  · exact ⟨store, hs, key, .inl ⟨found, chain, more.subset asked⟩⟩
  · exact ⟨store, hs, key, .inr ⟨place, found, candidate, more.subset rolled⟩⟩

/-- Where a text comes from: the call brings it along, or it is a stretch of a raw text that was
read. -/
def Origin (scope : Scope ι lang) (pools : ι → Pool) (call : Call) (trail : List (Event ι lang))
    (name : Text) : Prop :=
  call.Brings name ∨ ∃ raw, scope.Reads pools trail raw ∧ name <:+: raw

theorem Origin.mono {scope : Scope ι lang} {pools : ι → Pool} {call : Call}
    {trail trail' : List (Event ι lang)} {name : Text} (h : scope.Origin pools call trail name)
    (more : trail <:+ trail') : scope.Origin pools call trail' name := by
  obtain brought | ⟨raw, read, stretch⟩ := h
  · exact .inl brought
  · exact .inr ⟨raw, read.mono more, stretch⟩

/-- Every event is about a text with an origin in the older part of the trail, and lookups are
made in the language of the call. The keys of the memo have origins, and pools keep their
candidates. -/
structure Traced (scope : Scope ι lang) (pools : ι → Pool) (call : Call) (run : Run ι lang) :
    Prop where
  events : ∀ e earlier, e :: earlier <:+ run.trail →
    scope.Origin pools call earlier e.subject ∧ ∀ asked ∈ e.lookup?, asked.2 = scope.language
  memo : ∀ entry ∈ run.memo, scope.Origin pools call run.trail entry.1
  candidates : ∀ place, (run.pools place).candidates = (pools place).candidates

/-- The trail goes on, and all is traced as before. -/
structure Goes (scope : Scope ι lang) (pools : ι → Pool) (call : Call) (run after : Run ι lang) :
    Prop where
  traced : scope.Traced pools call after
  longer : run.trail <:+ after.trail

section Steps

variable {scope : Scope ι lang} {pools : ι → Pool} {call : Call} {run mid after : Run ι lang}

theorem Goes.refl (traced : scope.Traced pools call run) : scope.Goes pools call run run :=
  ⟨traced, List.suffix_refl _⟩

theorem Goes.trans (first : scope.Goes pools call run mid)
    (second : scope.Goes pools call mid after) : scope.Goes pools call run after :=
  ⟨second.traced, first.longer.trans second.longer⟩

/-- One event more, about a text with an origin. -/
theorem Traced.push (traced : scope.Traced pools call run) {e : Event ι lang}
    (origin : scope.Origin pools call run.trail e.subject)
    (language : ∀ asked ∈ e.lookup?, asked.2 = scope.language)
    (htrail : after.trail = e :: run.trail) (hmemo : after.memo = run.memo)
    (hpools : ∀ place, (after.pools place).candidates = (run.pools place).candidates) :
    scope.Goes pools call run after := by
  have longer : run.trail <:+ after.trail := htrail ▸ List.suffix_cons e run.trail
  refine ⟨⟨fun e' earlier h => ?_, fun entry h => ?_, fun place => ?_⟩, longer⟩
  · rw [htrail, List.suffix_cons_iff] at h
    rcases h with same | older
    · obtain ⟨rfl, rfl⟩ := List.cons.inj same
      exact ⟨origin, language⟩
    · exact traced.events e' earlier older
  · rw [hmemo] at h
    exact (traced.memo entry h).mono longer
  · rw [hpools, traced.candidates]

theorem Traced.noted (traced : scope.Traced pools call run) {n : Note}
    (origin : scope.Origin pools call run.trail n.subject) :
    scope.Goes pools call run { run with trail := .note n :: run.trail } :=
  traced.push (e := .note n) origin (fun _ h => nomatch h) rfl rfl fun _ => rfl

theorem Traced.said (traced : scope.Traced pools call run) (tracing : Bool) {n : Note}
    (origin : scope.Origin pools call run.trail n.subject) :
    scope.Goes pools call run (Step.said tracing n run) := by
  unfold Step.said
  split
  · exact .refl traced
  · exact traced.noted origin

theorem Traced.memoize (traced : scope.Traced pools call run) {key : Text} (value : Text)
    (origin : scope.Origin pools call run.trail key) :
    scope.Goes pools call run { run with memo := (key, value) :: run.memo } :=
  ⟨⟨traced.events, List.forall_mem_cons.2 ⟨origin, traced.memo⟩, traced.candidates⟩,
    List.suffix_refl _⟩

theorem Traced.asked (traced : scope.Traced pools call run) (chain : List Text) {key : Text}
    (origin : scope.Origin pools call run.trail key) :
    scope.Goes pools call run (Step.asked scope.language chain key run) :=
  traced.push (e := .lookup key scope.language chain) origin
    (fun _ h => by obtain rfl := Option.some.inj h; rfl) rfl rfl fun _ => rfl

/-- Inside a text, as long as its stretches have origins, the trail goes on as before. -/
def reading (scope : Scope ι lang) (pools : ι → Pool) (call : Call) (text : Text) :
    Simulation (Step ι lang) (Step ι lang) :=
  .ofKept (fun act => ∀ run, scope.Traced pools call run →
      (∀ name, name <:+: text → scope.Origin pools call run.trail name) →
        scope.Goes pools call run (act run).2)
    (fun _ _ traced _ => .refl traced)
    fun hx hf run traced origins =>
      have first := hx run traced origins
      first.trans (hf _ _ first.traced fun name h => (origins name h).mono first.longer)

section Filling

variable {text : Text} {ask : Text → Step ι lang (Option Text)}

theorem reading_say (tracing : Bool) {n : Note} (h : n.subject <:+: text) :
    (scope.reading pools call text).Keeps (Step.say tracing n) := by
  intro run traced origins
  rw [Step.say_run]
  exact traced.said tracing (origins n.subject h)

theorem reading_evaluate
    (hask : ∀ name, name <:+: text → (scope.reading pools call text).Keeps (ask name))
    {condition : Text} (h : condition <:+: text) :
    (scope.reading pools call text).Keeps (scope.evaluate ask condition) := by
  refine Simulation.evaluate_of_infix _ fun atom hatom => ?_
  have stretch : atom <:+: text := hatom.trans h
  exact Simulation.evaluateAtom_of_infix _ (fun name hname _ => hask name (hname.trans stretch))
    fun verdict => reading_say scope.tracing stretch

theorem reading_fillKey
    (hask : ∀ name, name <:+: text → (scope.reading pools call text).Keeps (ask name))
    {key : Text} (h : key <:+: text) :
    (scope.reading pools call text).Keeps (scope.fillKey ask key) := by
  refine Simulation.fillKey _ rfl ?_ ?_ (fun _ => hask key h) (reading_say scope.tracing h)
  · exact fun run traced _ => .refl traced
  · exact fun value run traced origins => traced.memoize value (origins key h)

/-- A text is filled from its own stretches. -/
theorem reading_fillHoles
    (hask : ∀ name, name <:+: text → (scope.reading pools call text).Keeps (ask name)) :
    (scope.reading pools call text).Keeps (scope.fillHoles ask (Template.read text)) := by
  rw [fillHoles_eq]
  refine Simulation.fillWith_of_infix _ (fun condition h => ?_) fun key h => ?_
  · rw [Template.source_read] at h
    exact reading_evaluate hask h
  · rw [Template.source_read] at h
    exact reading_fillKey hask h

end Filling

variable [DecidableEq ι] {store : Store ι lang}

/-- A roll turns a pool and leaves all candidates where they are. -/
theorem candidates_rolled (key : Text) (place p : ι) (run : Run ι lang) :
    ((Step.rolled key place run).pools p).candidates = (run.pools p).candidates := by
  change (if p = place then ((run.pools place).roll run.draws).2.1 else run.pools p).candidates = _
  split
  · next same => rw [Pool.roll_candidates, same]
  · rfl

theorem Traced.rolled (traced : scope.Traced pools call run) (place : ι) {key : Text}
    (origin : scope.Origin pools call run.trail key) :
    scope.Goes pools call run (Step.rolled key place run) :=
  traced.push (e := .roll key place _) origin (fun _ h => nomatch h) rfl rfl
    fun p => candidates_rolled key place p run

/-- What is fetched has been read. -/
theorem Traced.fetch (traced : scope.Traced pools call run) (hs : scope.store = some store)
    (chain : List Text) {key : Text} (origin : scope.Origin pools call run.trail key) :
    let fetched := Step.fetch store scope.language chain key run
    scope.Goes pools call run fetched.2 ∧
      ∀ raw, fetched.1 = some raw → scope.Reads pools fetched.2.trail raw := by
  intro fetched
  have asked := traced.asked chain origin
  match found : store key scope.language with
  | none =>
    have missing : fetched = (none, _) := Step.fetch_missing found chain run
    rw [missing]
    exact ⟨asked, fun raw h => nomatch h⟩
  | some (.text t) =>
    have held : fetched = (some t, _) := Step.fetch_text found chain run
    rw [held]
    refine ⟨asked, fun raw h => ?_⟩
    obtain rfl := Option.some.inj h
    exact ⟨store, hs, key, .inl ⟨found, chain, List.mem_cons_self⟩⟩
  | some (.pool place) =>
    have rolled : fetched = _ := Step.fetch_pool found chain run
    rw [Step.roll_run] at rolled
    rw [rolled]
    refine ⟨asked.trans (asked.traced.rolled place (origin.mono asked.longer)), ?_⟩
    intro raw picked
    have candidate : raw ∈ (pools place).candidates :=
      asked.traced.candidates place ▸ Pool.mem_candidates_of_roll picked
    refine ⟨store, hs, key, .inr ⟨place, found, candidate, ?_⟩⟩
    rw [← picked]
    exact List.mem_cons_self

/-- A stored key is expanded from texts that were read. The induction is on the room that is
left: what was fetched is read one level below. -/
theorem Traced.stored (room : Nat) (chain : List Text) (key : Text)
    (traced : scope.Traced pools call run) (origin : scope.Origin pools call run.trail key) :
    scope.Goes pools call run (scope.stored room chain key run).2 := by
  cases hs : scope.store with
  | none =>
    rw [stored_storeless hs]
    exact .refl traced
  | some store =>
  induction room generalizing chain key run with
  | zero =>
    by_cases hkey : Text.lower key ∈ chain
    · rw [stored_cyclic hs hkey]
      exact traced.noted (n := .cyclic key chain) origin
    · rw [stored_tooDeep hs hkey]
      exact traced.noted (n := .tooDeep scope.maxDepth key) origin
  | succ room ih =>
    by_cases hkey : Text.lower key ∈ chain
    · rw [stored_cyclic hs hkey]
      exact traced.noted (n := .cyclic key chain) origin
    · obtain ⟨goes, read⟩ := traced.fetch hs chain origin
      match hfetch : Step.fetch store scope.language chain key run with
      | (none, after) =>
        rw [hfetch] at goes
        rwa [stored_unfetched hs hkey hfetch]
      | (some raw, after) =>
        rw [hfetch] at goes read
        have below : scope.Goes pools call after
            (scope.fillHoles (scope.stored room (chain ++ [Text.lower key])) (Template.read raw)
              after).2 := by
          refine reading_fillHoles (fun name h run' traced' origins => ?_) after goes.traced
            fun name h => .inr ⟨raw, read raw rfl, h⟩
          exact ih _ name traced' (origins name h)
        match hfill : scope.fillHoles (scope.stored room (chain ++ [Text.lower key]))
            (Template.read raw) after with
        | (value, after') =>
          rw [hfill] at below
          rw [stored_fetched hs hkey hfetch hfill]
          have filled := goes.trans below
          exact filled.trans (filled.traced.said scope.tracing (origin.mono filled.longer))

/-- A call keeps the trail in order. -/
theorem Traced.serve (traced : scope.Traced pools call run) :
    scope.Goes pools call run (scope.serve call run).2 := by
  have ask (text name : Text) (h : name <:+: text) :
      (scope.reading pools call text).Keeps (scope.ask name) := fun _ traced' origins =>
    traced'.stored _ [] name (origins name h)
  cases call with
  | expand template => exact reading_fillHoles (ask template) run traced fun name h => .inl h
  | expandKey key => exact traced.stored _ [] key (.inl rfl)
  | judge expression =>
    exact reading_evaluate (ask expression) (List.infix_refl _) run traced fun name h => .inl h

end Steps

section Calls

variable [DecidableEq ι]

/-- **Field values are inert.** Every event of a call is about a text that the call brings along
or that is a stretch of a raw text read before; lookups are made in the language of the call;
and what the memo holds is bound to such texts. So a text that is in nothing that the store
holds, nor in what the call was made with, is in no key that is looked up, rolled, filled in
or refused and in no condition, whatever the fields hold. -/
theorem serve_origins (scope : Scope ι lang) (call : Call) (pools : ι → Pool) (draws : Draws) :
    let after := (scope.serve call { pools, draws }).2
    (∀ e earlier, e :: earlier <:+ after.trail →
      scope.Origin pools call earlier e.subject ∧ ∀ asked ∈ e.lookup?, asked.2 = scope.language) ∧
    (∀ entry ∈ after.memo, scope.Origin pools call after.trail entry.1) ∧
    ∀ foreign, ¬ foreign <:+: call.text →
      (∀ raw, scope.Holds pools raw → ¬ foreign <:+: raw) →
        (∀ e ∈ after.trail, ¬ foreign <:+: e.subject) ∧
          ∀ entry ∈ after.memo, ¬ foreign <:+: entry.1 := by
  intro after
  have start : scope.Traced pools call { pools, draws } :=
    ⟨fun _ _ h => absurd (List.suffix_nil.1 h) (List.cons_ne_nil _ _), fun _ h => (nomatch h),
      fun _ => rfl⟩
  have traced : scope.Traced pools call after := start.serve.traced
  refine ⟨traced.events, traced.memo, fun foreign hcall hstore => ?_⟩
  have unused {trail : List (Event ι lang)} {name : Text}
      (h : scope.Origin pools call trail name) : ¬ foreign <:+: name := by
    intro inside
    obtain brought | ⟨raw, read, stretch⟩ := h
    · exact hcall (inside.trans brought.infix_text)
    · exact hstore raw read.holds (inside.trans stretch)
  refine ⟨fun e he => ?_, fun entry h => unused (traced.memo entry h)⟩
  obtain ⟨later, earlier, htrail⟩ := List.append_of_mem he
  exact unused (traced.events e earlier ⟨later, htrail.symm⟩).1

end Calls

/-- A scope with one stored key, and a field whose text names that key in a hole. -/
def secretScope : Scope Empty Unit where
  store := some fun key _ => if key = ['s'] then some (.text ['x']) else none
  language := ()
  fields := [some ⟨['a'], .text ['{', '{', 's', '}', '}']⟩]
  maxDepth := 32
  tracing := true

/-- The text of the field enters the answer as it is, and its key stays unused. -/
theorem serve_origins_secret :
    let after := secretScope.serve (.expand ['{', '{', 'a', '}', '}'])
      { pools := fun place => (nomatch place), draws := .cycle [] }
    after.1 = .text ['{', '{', 's', '}', '}'] ∧ ∀ e ∈ after.2.trail, ¬ ['s'] <:+: e.subject := by
  refine ⟨by decide +kernel, ?_⟩
  obtain ⟨-, -, inert⟩ := serve_origins secretScope (.expand ['{', '{', 'a', '}', '}'])
    (fun place => (nomatch place)) (.cycle [])
  refine (inert ['s'] (by decide) ?_).1
  rintro raw ⟨store, hs, key, held | ⟨place, -⟩⟩
  · obtain rfl : _ = store := Option.some.inj hs
    obtain ⟨-, held⟩ := Option.ite_none_right_eq_some.1 held
    obtain rfl : _ = raw := Found.text.inj (Option.some.inj held)
    decide
  · exact nomatch place

end Scope

end Phrasebook
