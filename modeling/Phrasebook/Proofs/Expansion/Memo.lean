import Phrasebook.Expansion.Resolver
import Phrasebook.Proofs.Expansion.Call
import Phrasebook.Proofs.Expansion.Plain

/-!
# Memo and guards are invisible

On a store without pools an expansion gives the text of the plain expansion and warns of
nothing, as long as the plain expansion makes no try that the guards would refuse
(`expand_eq_plain`). That the plain expansion then ends is part of the statement.

What makes the memo invisible is that every entry is the plain value of its key, whatever
chain it was found under (`Scope.Sound`). The simulation `Scope.following` carries this from
the parts of a template to the template, and an induction on the room below the limit
carries it through the stored texts. Conditions ask the store directly, and it makes no
difference.
-/

namespace Phrasebook

variable {ι lang : Type}

/-- Is the event a warning? -/
def Event.isWarning : Event ι lang → Bool
  | .note n => !n.isTrace
  | _ => false

namespace Scope

/-- The plain value of a key that has one: that of a field, else that of its stored text. -/
def plainValue (scope : Scope ι lang) (key : Text) : Option (Option Text) :=
  match Field.find? key scope.fields with
  | some v => some (some v.wording)
  | none => scope.plainStored key

/-- The memo holds plain values only, and no warning was given. -/
structure Sound (scope : Scope ι lang) (run : Run ι lang) : Prop where
  memo : ∀ key value, run.memo.lookup key = some value → scope.plainValue key = some (some value)
  quiet : ∀ e ∈ run.trail, e.isWarning = false

/-- No try of a template, made below a chain of keys, is refused by a guard. -/
def Clear (scope : Scope ι lang) (chain : List Text) (template : Text) : Prop :=
  ∀ path key, scope.Tries template path key →
    Text.lower key ∉ chain ++ path ∧ ((chain ++ path).length : Int) < scope.maxDepth

/-- No guard refuses a key below a chain, nor any try of its stored text. -/
structure Open (scope : Scope ι lang) (chain : List Text) (key : Text) : Prop where
  fresh : Text.lower key ∉ chain
  room : (chain.length : Int) < scope.maxDepth
  clear : ∀ raw, scope.text? key = some raw → scope.Clear (chain ++ [Text.lower key]) raw

theorem Clear.open {scope : Scope ι lang} {chain : List Text} {template key : Text}
    (h : scope.Clear chain template) (tried : key ∈ (scope.trial template).tried) :
    scope.Open chain key where
  fresh := by simpa using (h [] key (.own tried)).1
  room := by simpa using (h [] key (.own tried)).2
  clear raw stored path name inner := by
    simpa using h (Text.lower key :: path) name (.nested tried stored inner)

/-- An action follows a trial: if nothing that the trial tries is refused, the trial ends and
the action gives its value from every sound run, and leaves a sound run behind. -/
def following (scope : Scope ι lang) (chain : List Text) : Simulation (Step ι lang) Trial where
  Rel x y := (∀ key ∈ y.tried, scope.Open chain key) →
    ∃ a, y.value = some a ∧ ∀ run, scope.Sound run → (x run).1 = a ∧ scope.Sound (x run).2
  pure a _ := ⟨a, rfl, fun _ sound => ⟨rfl, sound⟩⟩
  bind {_ _ x y f g} hx hf open' := by
    obtain ⟨a, ya, xa⟩ := hx fun key hkey => open' key (Trial.tried_subset_bind y g hkey)
    rw [Trial.bind_of_value ya] at open' ⊢
    obtain ⟨b, gb, fb⟩ := hf a fun key hkey => open' key (List.mem_append_right _ hkey)
    refine ⟨b, gb, fun run sound => ?_⟩
    obtain ⟨rfl, sound'⟩ := xa run sound
    exact fb _ sound'

section Steps

variable {scope : Scope ι lang} {chain : List Text} {run : Run ι lang}

theorem Sound.memoize {key value : Text} (sound : scope.Sound run)
    (h : scope.plainValue key = some (some value)) :
    scope.Sound { run with memo := (key, value) :: run.memo } where
  memo name held hname := by
    rw [List.lookup_cons] at hname
    by_cases same : name = key
    · simp only [same, beq_self_eq_true, Option.some.injEq] at hname
      rw [same, ← hname, h]
    · rw [beq_eq_false_iff_ne.2 same] at hname
      exact sound.memo name held hname
  quiet := sound.quiet

theorem Sound.asked (sound : scope.Sound run) (language : lang) (key : Text) :
    scope.Sound (Step.asked language chain key run) where
  memo := sound.memo
  quiet e he := by
    rcases List.mem_cons.1 he with rfl | he
    · rfl
    · exact sound.quiet e he

theorem Sound.said (sound : scope.Sound run) (tracing : Bool) {n : Note}
    (h : n.isTrace = true) : scope.Sound (Step.said tracing n run) where
  memo key value := by simpa using sound.memo key value
  quiet e he := by
    unfold Step.said at he
    split at he
    · exact sound.quiet e he
    · rcases List.mem_cons.1 he with rfl | he
      · simp [Event.isWarning, h]
      · exact sound.quiet e he

theorem following_say (tracing : Bool) {n : Note} (h : n.isTrace = true) :
    (scope.following chain).Rel (Step.say tracing n) (pure ()) := by
  refine fun _ => ⟨(), rfl, fun run sound => ?_⟩
  rw [Step.say_run]
  exact ⟨rfl, sound.said tracing h⟩

variable {ask : Text → Step ι lang (Option Text)}

/-- Where the answers of the store follow its trials, so do the values of keys. A key in the
memo is not tried again, and its entry is what the trial finds. -/
theorem following_fillKey
    (hask : ∀ key, (scope.following chain).Rel (ask key) (scope.attempt key)) (key : Text) :
    (scope.following chain).Rel (scope.fillKey ask key)
      (Plain.value scope.fields scope.attempt key) := by
  cases field : Field.find? key scope.fields with
  | some v =>
    intro _
    have plain : scope.plainValue key = some (some v.wording) := by simp [plainValue, field]
    refine ⟨v.wording, by simp [Plain.value, field]; rfl, fun run sound => ?_⟩
    cases held : run.memo.lookup key with
    | some value =>
      have entry := sound.memo key value held
      rw [fillKey_held held]
      exact ⟨by simpa [plain] using entry.symm, sound.memoize entry⟩
    | none =>
      rw [fillKey_field held field]
      exact ⟨rfl, sound.memoize plain⟩
  | none =>
    have trial : Plain.value scope.fields scope.attempt key =
        scope.attempt key >>= fun stored => pure (stored.getD key) := by
      simp [Plain.value, field]
    rw [trial]
    intro clear
    obtain ⟨stored, ends, follows⟩ := hask key fun name hname =>
      clear name (Trial.tried_subset_bind _ _ hname)
    have plain : scope.plainValue key = some stored := by
      rw [plainValue, field]
      exact ends
    refine ⟨stored.getD key, by rw [Trial.bind_of_value ends]; rfl, fun run sound => ?_⟩
    cases held : run.memo.lookup key with
    | some value =>
      have entry := sound.memo key value held
      obtain rfl : stored = some value := Option.some.inj (plain.symm.trans entry)
      rw [fillKey_held held]
      exact ⟨rfl, sound.memoize entry⟩
    | none =>
      obtain ⟨answer, sound'⟩ := follows run sound
      cases stored with
      | some value =>
        rw [fillKey_stored held field (Prod.ext answer rfl)]
        exact ⟨rfl, sound'.memoize plain⟩
      | none =>
        rw [fillKey_missing held field (Prod.ext answer rfl)]
        exact ⟨rfl, sound'.said _ rfl⟩

theorem following_fillHoles
    (hask : ∀ key, (scope.following chain).Rel (ask key) (scope.attempt key)) (template : Text) :
    (scope.following chain).Rel (scope.fillHoles ask (Template.read template))
      (scope.trial template) := by
  rw [fillHoles_eq]
  refine Simulation.fillWith _ (fun condition => ?_) (following_fillKey hask) _
  refine Simulation.evaluate _ (fun atom => ?_) condition
  exact Simulation.evaluateAtom _ (fun key _ => hask key) (fun _ _ => following_say _ rfl) atom

variable [DecidableEq ι]

/-- Without pools, a stored key follows its trial at every depth. The induction is on the
room that is left; room and chain together make up the limit. -/
theorem following_stored
    (poolless : ∀ store ∈ scope.store, ∀ key place, store key scope.language ≠ some (.pool place))
    (room : Nat) (chain : List Text) (hroom : chain.length + room = scope.maxDepth.toNat)
    (key : Text) :
    (scope.following chain).Rel (scope.stored room chain key) (scope.attempt key) := by
  cases hs : scope.store with
  | none =>
    intro _
    have missing : scope.text? key = none := by simp [text?, hs]
    refine ⟨none, plainStored_of_not_text missing, fun run sound => ?_⟩
    rw [stored_storeless hs]
    exact ⟨rfl, sound⟩
  | some store =>
  induction room generalizing chain key with
  | zero =>
    intro clear
    have room := (clear key (by simp [attempt, hs])).room
    omega
  | succ room ih =>
    intro clear
    have here := clear key (by simp [attempt, hs])
    match found : store key scope.language with
    | none =>
      have missing : scope.text? key = none := by simp [text?, hs, found]
      refine ⟨none, plainStored_of_not_text missing, fun run sound => ?_⟩
      rw [stored_unfetched hs here.fresh (Step.fetch_missing found chain run)]
      exact ⟨rfl, sound.asked scope.language key⟩
    | some (.pool place) => exact absurd found (poolless store hs key place)
    | some (.text raw) =>
      have stored : scope.text? key = some raw := by simp [text?, hs, found]
      have hroom' : (chain ++ [Text.lower key]).length + room = scope.maxDepth.toNat := by
        rw [List.length_append, List.length_singleton]
        omega
      obtain ⟨value, ends, follows⟩ :=
        following_fillHoles (ih _ hroom') raw fun name tried => (here.clear raw stored).open tried
      rw [value_trial] at ends
      refine ⟨some value, ?_, fun run sound => ?_⟩
      · change scope.plainStored key = _
        rw [plainStored_of_text stored, ends]
        rfl
      · obtain ⟨answer, sound'⟩ := follows _ (sound.asked scope.language key)
        rw [stored_fetched hs here.fresh (Step.fetch_text found chain run) (Prod.ext answer rfl)]
        exact ⟨rfl, sound'.said _ rfl⟩

/-- A template whose tries no guard refuses has a plain expansion, and from a sound run it is
expanded to that. -/
theorem Clear.expand {template : Text} (clear : scope.Clear [] template)
    (poolless : ∀ store ∈ scope.store, ∀ key place, store key scope.language ≠ some (.pool place))
    (sound : scope.Sound run) :
    scope.plain template = some (scope.expand template run).1 ∧
      scope.Sound (scope.expand template run).2 := by
  obtain ⟨value, ends, follows⟩ :=
    following_fillHoles (following_stored poolless _ [] (Nat.zero_add _)) template
      fun name tried => clear.open tried
  obtain ⟨rfl, sound'⟩ := follows run sound
  exact ⟨value_trial scope template ▸ ends, sound'⟩

end Steps

end Scope

/-- A call whose trail has no warning gives no record of that level. -/
theorem Outcome.level_ne_warning {σ α : Type} {o : Outcome σ ι lang α}
    (quiet : ∀ e ∈ o.trail, e.isWarning = false) (logger : Text) :
    ∀ record ∈ o.records logger, record.level ≠ Log.warning := by
  intro record hrecord
  obtain ⟨e, he, hnote⟩ := List.mem_filterMap.1 hrecord
  obtain ⟨n, hn, rfl⟩ := Option.map_eq_some_iff.1 hnote
  cases e with
  | note n' =>
    obtain rfl : n' = n := Option.some.inj hn
    have trace : n'.isTrace = true := by simpa [Event.isWarning] using quiet _ he
    simp [Note.record, trace, Log.debug, Log.warning]
  | lookup _ _ _ => cases hn
  | roll _ _ _ => cases hn

namespace Resolver

variable {σ : Type} [DecidableEq ι]

/-- **Memo and guards are invisible.** On a shelf without pools, if the plain expansion of a
template never tries the store for a key that is on its path already, nor where the path is
as long as the limit, then it ends, and the expansion gives its text and logs no warning. -/
theorem expand_eq_plain (r : Resolver) (kind : Shelf σ ι lang) (shelf : Option σ) (draws : Draws)
    (language : lang) (fields : List (Option Field)) (template : Text)
    (poolless : ∀ s ∈ shelf, ∀ key place, kind.find s key language ≠ some (.pool place))
    (unguarded : ∀ path key, (r.scope kind shelf language fields).Tries template path key →
      Text.lower key ∉ path ∧ (path.length : Int) < r.maxDepth) :
    let outcome := r.expand kind shelf draws language fields template
    (r.scope kind shelf language fields).plain template = some outcome.value ∧
      ∀ logger, ∀ record ∈ outcome.records logger, record.level ≠ Log.warning := by
  have clear : (r.scope kind shelf language fields).Clear [] template := by
    intro path key tries
    rw [List.nil_append]
    exact unguarded path key tries
  have poolless' : ∀ store ∈ (r.scope kind shelf language fields).store, ∀ key place,
      store key language ≠ some (.pool place) := by
    intro store hstore key place
    obtain ⟨s, hs, rfl⟩ := Option.map_eq_some_iff.1 hstore
    exact poolless s hs key place
  have empty (pools : ι → Pool) :
      (r.scope kind shelf language fields).Sound { pools, draws } :=
    ⟨fun _ _ held => (nomatch held), fun _ he => (nomatch he)⟩
  obtain ⟨value, sound⟩ := clear.expand poolless' (empty _)
  exact ⟨value, Outcome.level_ne_warning fun e he => sound.quiet e (List.mem_reverse.1 he)⟩

/-- A shelf with two texts, one of which names the other. -/
def nestedShelf : Shelf Unit Empty Unit where
  find _ key _ :=
    if key = ['a'] then some (.text "<{{b}}>".toList)
    else if key = ['b'] then some (.text "yes".toList)
    else none
  pools _ place := nomatch place
  restock _ _ := ()

/-- The scope of a call on the shelf with just enough room. -/
def nestedScope : Scope Empty Unit :=
  ({ maxDepth := 2 } : Resolver).scope nestedShelf (some ()) () []

theorem attempt_nestedScope : nestedScope.attempt = fun key =>
    ⟨if key = ['a'] then some (some "<yes>".toList)
      else if key = ['b'] then some (some "yes".toList) else some none, [key]⟩ := by
  have readInner : Template.read "<{{b}}>".toList = .hole ['<'] ['b'] (.ends ['>']) := by
    decide +kernel
  have readKey : Directive.read ['b'] = .key ['b'] := by decide +kernel
  have storedB : nestedScope.plainStored ['b'] = some (some "yes".toList) := by
    rw [Scope.plainStored_of_text (show nestedScope.text? ['b'] = some "yes".toList from rfl),
      Scope.plain, show Template.read "yes".toList = .ends "yes".toList by decide +kernel]
    rfl
  have storedA : nestedScope.plainStored ['a'] = some (some "<yes>".toList) := by
    rw [Scope.plainStored_of_text (show nestedScope.text? ['a'] = some "<{{b}}>".toList from rfl),
      Scope.plain, readInner]
    simp only [Plain.fill, Template.fillWith, readKey, Directive.fillWith]
    change ((nestedScope.plainStored ['b'] >>= _) >>= _).map some = _
    rw [storedB]
    rfl
  funext key
  unfold Scope.attempt
  congr 1
  split
  · next h => rw [h, storedA]
  · split
    · next h => rw [h, storedB]
    · next ha hb =>
      have missing : nestedScope.text? key = none := by
        simp only [Scope.text?, nestedScope, scope, nestedShelf, Option.map_some,
          Option.bind_some, if_neg ha, if_neg hb]
      exact Scope.plainStored_of_not_text missing

/-- A key met twice, and once more as a condition. -/
theorem expand_eq_plain_nested :
    let outcome := ({ maxDepth := 2 } : Resolver).expand nestedShelf (some ()) (Draws.cycle [])
      () [] "{{a}}{{if:b:a}}{{b}}".toList
    nestedScope.plain "{{a}}{{if:b:a}}{{b}}".toList = some outcome.value ∧
      ∀ logger, ∀ record ∈ outcome.records logger, record.level ≠ Log.warning := by
  have tries : ∀ name ∈ (nestedScope.trial "{{a}}{{if:b:a}}{{b}}".toList).tried,
      name = ['a'] ∨ name = ['b'] := by
    rw [Scope.trial, attempt_nestedScope]
    decide +kernel
  have triesA : ∀ name ∈ (nestedScope.trial "<{{b}}>".toList).tried, name = ['b'] := by
    rw [Scope.trial, attempt_nestedScope]
    decide +kernel
  have triesB : (nestedScope.trial "yes".toList).tried = [] := by
    rw [Scope.trial, attempt_nestedScope]
    decide +kernel
  have noneB (path : List Text) (key : Text) : ¬ nestedScope.Tries "yes".toList path key := by
    intro h
    cases h with
    | own tried => exact absurd tried (by rw [triesB]; exact List.not_mem_nil)
    | nested tried _ _ => exact absurd tried (by rw [triesB]; exact List.not_mem_nil)
  have belowB {raw key : Text} {path : List Text} (stored : nestedScope.text? ['b'] = some raw) :
      ¬ nestedScope.Tries raw path key := by
    obtain rfl : "yes".toList = raw := Option.some.inj stored
    exact noneB path key
  refine expand_eq_plain _ nestedShelf _ _ () [] _ (fun s _ key place => nomatch place) ?_
  intro path key h
  cases h with
  | own tried => exact ⟨List.not_mem_nil, by decide⟩
  | nested tried stored inner =>
    rcases tries _ tried with rfl | rfl
    · obtain rfl := Option.some.inj stored
      cases inner with
      | own tried =>
        rw [triesA _ tried]
        exact ⟨by decide +kernel, by decide⟩
      | nested tried stored inner =>
        rw [triesA _ tried] at stored
        exact absurd inner (belowB stored)
    · exact absurd inner (belowB stored)

end Resolver

end Phrasebook
