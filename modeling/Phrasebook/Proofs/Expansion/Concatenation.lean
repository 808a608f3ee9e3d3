import Phrasebook.Proofs.Expansion.Accord
import Phrasebook.Proofs.Template.Grammar

/-!
# One template behind another

Two templates that are expanded in one call share a memo. So what stands in front can change what
comes behind it: a text that was found while a guard refused something is kept, and a later hole
gets it where by itself it would find another (`expand_append_fails`). It can change nothing else.
Where no guard warns while a hole is filled with a key that the first template has left in the memo
and the second one asks for, the two together give what they give one by one (`expand_append`).

The second call goes in lockstep with what becomes of the second template behind the first
(`Simulation.trailing`): what that one has in its memo is what the lonely call has or the first
template has left.
-/

namespace Phrasebook

variable {ι lang : Type}

namespace Template

/-- No opening is left unclosed. -/
def Complete : Template → Prop
  | ends _ => True
  | unclosed _ _ => False
  | hole _ _ rest => rest.Complete

instance decidableComplete : DecidablePred Complete
  | ends _ => .isTrue trivial
  | unclosed _ _ => .isFalse id
  | hole _ _ rest => decidableComplete rest

/-- A template behind another one that is complete. -/
def andThen : Template → Template → Template
  | ends lead, t => t.prepend lead
  | unclosed lead tail, _ => unclosed lead tail
  | hole lead key rest, t => hole lead key (rest.andThen t)

/-- Text behind a complete template is read as the template behind it, unless an opening comes about
where they meet. -/
theorem read_source_append {t : Template} (wellFormed : t.WellFormed) (complete : t.Complete)
    {s : Text} (apart : t.source.getLast? ≠ some '{' ∨ s.head? ≠ some '{') :
    read (t.source ++ s) = t.andThen (read s) := by
  induction t with
  | ends lead => exact read_append wellFormed apart
  | unclosed lead tail => exact complete.elim
  | hole lead key rest ih =>
    obtain ⟨hlead, hkey, hrest⟩ := wellFormed
    have apart' : rest.source.getLast? ≠ some '{' ∨ s.head? ≠ some '{' := by
      refine apart.imp_left fun last last' => last ?_
      simp [source, List.getLast?_cons, last']
    have inner := readKey_closing hkey (rest.source ++ s)
    rw [ih hrest complete apart'] at inner
    have outer := read_opening hlead (key ++ '}' :: '}' :: (rest.source ++ s))
    rw [inner] at outer
    simpa [source, andThen, ofOpened, prepend] using outer

theorem read_text_append {s s' : Text} (complete : (read s).Complete)
    (apart : s.getLast? ≠ some '{' ∨ s'.head? ≠ some '{') :
    read (s ++ s') = (read s).andThen (read s') := by
  have both := read_source_append (wellFormed_read s) complete (s := s')
  rw [source_read] at both
  exact both apart

end Template

namespace Scope

variable {scope : Scope ι lang} {ask : Text → Step ι lang (Option Text)}

theorem fillHoles_prepend (lead : Text) (t : Template) :
    scope.fillHoles ask (t.prepend lead) = (lead ++ ·) <$> scope.fillHoles ask t := by
  cases t with
  | ends | unclosed => rfl
  | hole lead' key rest =>
    funext run
    simp [fillHoles, Template.prepend]

/-- Behind a complete template the holes are filled when all of its holes are. -/
theorem fillHoles_andThen {t : Template} (complete : t.Complete) (u : Template) (run : Run ι lang) :
    scope.fillHoles ask (t.andThen u) run =
      let first := scope.fillHoles ask t run
      let second := scope.fillHoles ask u first.2
      (first.1 ++ second.1, second.2) := by
  induction t generalizing run with
  | ends lead => exact congrFun (fillHoles_prepend lead u) run
  | unclosed => exact complete.elim
  | hole lead key rest ih =>
    have inner := ih complete (scope.fill ask key run).2
    simp [fillHoles, Template.andThen, inner]

/-- What a memo holds behind another call: what it holds by itself, or what the other has left. -/
structure Coupled (scope : Scope ι lang) (memo behind alone : List (Text × Text)) : Prop where
  fits : scope.Fits memo alone
  same : ∀ key, behind.lookup key = (alone.lookup key).or (memo.lookup key)

/-- A text may be put into both. -/
theorem Coupled.memoize {memo behind alone : List (Text × Text)}
    (coupled : scope.Coupled memo behind alone) {key value : Text}
    (fits : scope.Fits memo ((key, value) :: alone)) :
    scope.Coupled memo ((key, value) :: behind) ((key, value) :: alone) := by
  refine ⟨fits, fun name => ?_⟩
  by_cases same : name = key
  · subst same
    rw [List.lookup_cons_self, List.lookup_cons_self]
    rfl
  · rw [List.lookup_cons, List.lookup_cons, beq_eq_false_iff_ne.2 same]
    exact coupled.same name

/-- Where the call behind the other finds a text, the lonely one may grow by it. -/
theorem Coupled.grow {memo behind alone mid : List (Text × Text)}
    (coupled : scope.Coupled memo behind alone) (grows : scope.Grows memo alone mid)
    {key value : Text} (found : behind.lookup key = some value) :
    scope.Coupled memo ((key, value) :: behind) mid := by
  refine ⟨grows.fits, fun name => ?_⟩
  rw [grows.same name, ← coupled.same name]
  by_cases same : name = key
  · subst same
    rw [List.lookup_cons_self, found]
  · rw [List.lookup_cons, beq_eq_false_iff_ne.2 same]

end Scope

/-- A step goes behind another call as it goes watched by itself, as long as that enters nothing
that a given book does not hold. -/
def Simulation.trailing (scope : Scope ι lang) (memo : List (Text × Text))
    (book : List (Filling ι lang)) : Simulation (Step ι lang) (Watch ι lang) where
  Rel x y := (∀ w : Watched ι lang, w.Precedes (y w).2) ∧
    ∀ run w, (y w).2.filled <:+ book → scope.Coupled memo run.memo w.run.memo →
      (x run).1 = (y w).1 ∧ scope.Coupled memo (x run).2.memo (y w).2.run.memo
  pure a := ⟨.refl, fun _ _ _ coupled => ⟨rfl, coupled⟩⟩
  bind {_ _ x y f g} hx hf := by
    refine ⟨fun w => (hx.1 w).trans ((hf _).1 _), fun run w entered coupled => ?_⟩
    rw [Watch.bind_run] at entered
    have later := (hf (y w).1).1 (y w).2
    obtain ⟨answer, coupled'⟩ := hx.2 run w (later.filled.trans entered) coupled
    rw [Step.bind_run, Watch.bind_run, answer]
    exact (hf (y w).1).2 _ _ entered coupled'

namespace Scope

variable {scope : Scope ι lang} {memo : List (Text × Text)} {book : List (Filling ι lang)}

theorem trailing_step {α : Type} {act : Step ι lang α}
    (longer : ∀ run, run.trail <:+ (act run).2.trail)
    (memo_act : ∀ run, (act run).2.memo = run.memo)
    (answer : ∀ run run', (act run).1 = (act run').1) :
    (Simulation.trailing scope memo book).Rel act act.watched := by
  refine ⟨fun w => ⟨.of_memo_eq (longer w.run) (memo_act w.run), List.suffix_refl _⟩, ?_⟩
  intro run w _ coupled
  rw [Watch.watched_run, memo_act, memo_act]
  exact ⟨answer run w.run, coupled⟩

theorem trailing_say (tracing : Bool) (n : Note) :
    (Simulation.trailing scope memo book).Rel (Step.say tracing n)
      (Step.say tracing n).watched := by
  refine trailing_step (fun run => ?_) (fun run => ?_) fun _ _ => ?_
  · rw [Step.say_run]
    exact Step.trail_suffix_said tracing n run
  · rw [Step.say_run]
    exact Step.memo_said tracing n run
  · rfl

variable [DecidableEq ι]

theorem trailing_fetch (meets : scope.Meets memo book) {store : Store ι lang}
    (hs : scope.store = some store) (chain : List Text) (key : Text) :
    (Simulation.trailing scope memo book).Rel (Step.fetch store scope.language chain key)
      (Step.fetch store scope.language chain key).watched := by
  refine trailing_step (trail_suffix_fetch store scope.language chain key)
    (memo_fetch store scope.language chain key) fun run run' => ?_
  match found : store key scope.language with
  | none => rw [Step.fetch_missing found, Step.fetch_missing found]
  | some (.text raw) => rw [Step.fetch_text found, Step.fetch_text found]
  | some (.pool place) => exact absurd found (meets.poolless store hs key place)

section Keys

variable {room : Nat} {chain : List Text}

section Absent

variable {key value : Text} {run : Run ι lang} {w : Watched ι lang}
  (absent : w.run.memo.lookup key = none)
  (entered : (scope.watchKey (scope.watchStored room chain) key w).2.filled <:+ book)
  (coupled : scope.Coupled memo run.memo w.run.memo)

include absent entered coupled

/-- Behind the other call a hole finds what that has left for its key. The lonely call has to ask
the store, and gets the same: it was shown for the key. -/
theorem trailing_left (meets : scope.Meets memo book) (left : memo.lookup key = some value) :
    (scope.fillKey (scope.stored room chain) key run).1 =
        (scope.watchKey (scope.watchStored room chain) key w).1 ∧
      scope.Coupled memo (scope.fillKey (scope.stored room chain) key run).2.memo
        (scope.watchKey (scope.watchStored room chain) key w).2.run.memo := by
  have settled := meets.settled
  have put := mem_of_lookup left
  have found : run.memo.lookup key = some value := by
    rw [coupled.same key, absent, left]
    rfl
  rw [fillKey_held found]
  cases field : Field.find? key scope.fields with
  | some v =>
    obtain rfl := settled.overridden key v value field put
    rw [watchKey_field absent field]
    refine ⟨rfl, coupled.memoize (coupled.fits.memoize (fun value' put' => ?_) fun free => ?_)⟩
    · exact settled.once key value' v.wording put' put
    · rw [field] at free
      cases free
  | none =>
    obtain ⟨shown, quiet⟩ := meets.shown _ (entered.subset List.mem_cons_self) value put field
    obtain ⟨answer, grows⟩ := grows_of_shown
      (fun room' chain' name => according_watchStored meets room room' chain chain' name)
      quiet entered coupled.fits settled shown put absent field
    exact ⟨answer.symm, coupled.grow grows found⟩

/-- Where the other call has left nothing for the key, both calls ask for it in the same way. -/
theorem trailing_unmet (hask : ∀ name, (Simulation.trailing scope memo book).Rel
      (scope.stored room chain name) (scope.watchStored room chain name))
    (unmet : memo.lookup key = none) :
    (scope.fillKey (scope.stored room chain) key run).1 =
        (scope.watchKey (scope.watchStored room chain) key w).1 ∧
      scope.Coupled memo (scope.fillKey (scope.stored room chain) key run).2.memo
        (scope.watchKey (scope.watchStored room chain) key w).2.run.memo := by
  have found : run.memo.lookup key = none := by
    rw [coupled.same key, absent, unmet]
    rfl
  have agree (value value' : Text) (put : (key, value') ∈ memo) : value' = value :=
    absurd put (lookup_eq_none_iff.1 unmet value')
  cases field : Field.find? key scope.fields with
  | some v =>
    rw [fillKey_field found field, watchKey_field absent field]
    refine ⟨rfl, coupled.memoize (coupled.fits.memoize (agree v.wording) fun free => ?_)⟩
    rw [field] at free
    cases free
  | none =>
    have asking := (hask key).2 run w
    match asked : scope.watchStored room chain key w with
    | (some value, after) =>
      rw [watchKey_stored absent field asked] at entered ⊢
      rw [asked] at asking
      obtain ⟨answer, coupled'⟩ := asking ((List.suffix_cons _ _).trans entered) coupled
      match asked' : scope.stored room chain key run with
      | (value', after') =>
        rw [asked'] at answer coupled'
        obtain rfl : value' = some value := answer
        have stored := isSome_of_stored (congrArg Prod.fst asked')
        rw [fillKey_stored found field asked']
        exact ⟨rfl, coupled'.memoize (coupled'.fits.memoize (agree value) fun _ => stored)⟩
    | (none, after) =>
      rw [watchKey_missing absent field asked] at entered ⊢
      rw [asked] at asking
      obtain ⟨answer, coupled'⟩ := asking ((List.suffix_cons _ _).trans entered) coupled
      match asked' : scope.stored room chain key run with
      | (value', after') =>
        rw [asked'] at answer coupled'
        obtain rfl : value' = none := answer
        rw [fillKey_missing found field asked']
        refine ⟨rfl, ?_⟩
        change scope.Coupled memo (Step.said scope.tracing (.unresolved key) after').memo
          (Step.said scope.tracing (.unresolved key) after.run).memo
        rwa [Step.memo_said, Step.memo_said]

end Absent

/-- A hole gets the same behind another call, whatever that has left for its key. -/
theorem trailing_watchKey (meets : scope.Meets memo book)
    (hask : ∀ name, (Simulation.trailing scope memo book).Rel (scope.stored room chain name)
      (scope.watchStored room chain name)) (key : Text) :
    (Simulation.trailing scope memo book).Rel (scope.fillKey (scope.stored room chain) key)
      (scope.watchKey (scope.watchStored room chain) key) := by
  refine ⟨fun w => (backing_watchKey (backing_watchStored scope room chain) key w).1, ?_⟩
  intro run w entered coupled
  cases held : w.run.memo.lookup key with
  | some value =>
    have found : run.memo.lookup key = some value := by
      rw [coupled.same key, held]
      rfl
    have fits := coupled.fits
    have put := mem_of_lookup held
    rw [fillKey_held found, watchKey_held held]
    refine ⟨rfl, coupled.memoize (fits.memoize (fun value' left => ?_) (fits.stored key value put))⟩
    exact fits.agree key value value' put left
  | none =>
    cases left : memo.lookup key with
    | some value => exact trailing_left held entered coupled meets left
    | none => exact trailing_unmet held entered coupled hask left

theorem trailing_watchHoles (meets : scope.Meets memo book)
    (hask : ∀ name, (Simulation.trailing scope memo book).Rel (scope.stored room chain name)
      (scope.watchStored room chain name)) (t : Template) :
    (Simulation.trailing scope memo book).Rel (scope.fillHoles (scope.stored room chain) t)
      (scope.watchHoles (scope.watchStored room chain) t) := by
  rw [fillHoles_eq]
  refine Simulation.fillWith _ (fun expression => ?_) (trailing_watchKey meets hask) t
  apply Simulation.evaluate
  intro condition
  exact Simulation.evaluateAtom _ (fun name _ => hask name)
    (fun _ _ => trailing_say scope.tracing _) condition

end Keys

/-- A stored key is expanded behind another call as it is by itself. The induction is on the room
that is left. -/
theorem trailing_watchStored (meets : scope.Meets memo book) (room : Nat) (chain : List Text)
    (key : Text) :
    (Simulation.trailing scope memo book).Rel (scope.stored room chain key)
      (scope.watchStored room chain key) := by
  let R := Simulation.trailing scope memo book
  cases hs : scope.store with
  | none =>
    unfold stored watchStored
    simp only [hs]
    exact R.pure none
  | some store =>
  have refused (n : Note) : R.Rel (do Step.say scope.tracing n; return (none : Option Text))
      (do (Step.say scope.tracing n).watched; return none) :=
    R.bind (trailing_say scope.tracing n) fun _ => R.pure none
  induction room generalizing chain key with
  | zero =>
    unfold stored watchStored
    simp only [hs, List.contains_iff_mem]
    split
    · exact refused _
    · exact refused _
  | succ room ih =>
    unfold stored watchStored
    simp only [hs, List.contains_iff_mem]
    split
    · exact refused _
    · refine R.bind (trailing_fetch meets hs chain key) fun raw => ?_
      cases raw with
      | none => exact R.pure none
      | some raw =>
        refine R.bind (trailing_watchHoles meets (fun name => ih _ name) (Template.read raw))
          fun value => ?_
        exact R.bind (trailing_say scope.tracing _) fun _ => R.pure (some value)

/-- What the first call has left meets the second call well, if no guard warned in either while a
hole was filled with a key that both have in common. -/
theorem meets_of_quiet
    (poolless : ∀ store ∈ scope.store, ∀ key place, store key scope.language ≠ some (.pool place))
    {first : Watched ι lang} (orderly : first.Orderly scope.fields) (backed : first.Backed scope)
    (quiet : ∀ p ∈ first.filled, ∀ q ∈ book, q.key = p.key →
      (p.after.memo.lookup p.key).isSome → p.Quiet ∧ q.Quiet) :
    scope.Meets first.run.memo book where
  poolless := poolless
  settled := orderly.settled
  shown q hq value put free := by
    obtain ⟨p, hp, same, room, chain, after, stored, left⟩ := backed q.key value put free
    have resolved : (p.after.memo.lookup p.key).isSome := by simp [left]
    obtain ⟨silent, silent'⟩ := quiet p hp q hq same.symm resolved
    have within : after.memo <:+ first.run.memo := by
      have kept := (orderly.filled p hp).2
      rw [left] at kept
      exact (List.suffix_cons _ _).trans kept
    rw [Filling.Quiet, left] at silent
    refine ⟨⟨room, chain, p.before, ?_, ?_, ?_⟩, silent'⟩
    · rw [← same, stored]
    · rw [← same, stored]
      exact silent
    · rw [← same, stored]
      exact within

/-- **A template behind another one expands as it does by itself**, where there are no pools, the
one in front leaves no opening unclosed and none comes about where they meet. Needed is besides that
of the two calls by themselves none warns while a hole, on whatever level, is filled with a key that
the first has resolved and the second meets. -/
theorem expand_append
    (poolless : ∀ store ∈ scope.store, ∀ key place, store key scope.language ≠ some (.pool place))
    {s s' : Text} (complete : (Template.read s).Complete)
    (apart : s.getLast? ≠ some '{' ∨ s'.head? ≠ some '{') (pools : ι → Pool) (draws : Draws)
    (quiet : ∀ p ∈ (scope.watch (.expand s) { run := { pools, draws } }).2.filled,
      ∀ q ∈ (scope.watch (.expand s') { run := { pools, draws } }).2.filled,
        q.key = p.key → (p.after.memo.lookup p.key).isSome → p.Quiet ∧ q.Quiet) :
    (scope.expand (s ++ s') { pools, draws }).1 =
      (scope.expand s { pools, draws }).1 ++ (scope.expand s' { pools, draws }).1 := by
  let start : Run ι lang := { pools, draws }
  let first := (scope.watch (.expand s) { run := start }).2
  have orderly : first.Orderly scope.fields :=
    (ordering_watch scope (.expand s) _ ⟨.nil scope.fields, List.forall_mem_nil _⟩).orderly
  have backed : first.Backed scope :=
    (backing_watchHoles (backing_watchStored scope _ []) (Template.read s) { run := start }).2
      fun _ _ put => nomatch put
  have meets := meets_of_quiet poolless orderly backed quiet
  have left : first.run = (scope.expand s start).2 :=
    (watch_eq scope (.expand s) { run := start }).2
  have coupled : scope.Coupled first.run.memo (scope.expand s start).2.memo start.memo :=
    ⟨⟨nofun, nofun⟩, fun key => by rw [left]; rfl⟩
  have behind := ((trailing_watchHoles meets (trailing_watchStored meets _ []) (Template.read s')).2
    (scope.expand s start).2 { run := start } (List.suffix_refl _) coupled).1
  have alone : (scope.watchHoles (scope.watchStored scope.maxDepth.toNat []) (Template.read s')
      { run := start }).1 = (scope.expand s' start).1 :=
    (watching_holes (watching_stored scope _ []) (Template.read s') { run := start }).1
  calc (scope.expand (s ++ s') start).1
      = (scope.expand s start).1 ++
          (scope.fillHoles scope.ask (Template.read s') (scope.expand s start).2).1 := by
        unfold expand
        rw [Template.read_text_append complete apart, fillHoles_andThen complete]
    _ = (scope.expand s start).1 ++ (scope.expand s' start).1 :=
        congrArg ((scope.expand s start).1 ++ ·) (behind.trans alone)

/-- A scope with two keys that have a text in common and one that refers to itself. -/
def sharedScope : Scope Empty Unit where
  store := some fun key _ =>
    if key = ['a'] then some (.text "x{{c}}".toList)
    else if key = ['b'] then some (.text "{{b}}{{a}}".toList)
    else if key = ['c'] then some (.text ['y'])
    else none
  language := ()
  fields := []
  maxDepth := defaultMaxDepth
  tracing := false

instance (p : Filling ι lang) : Decidable p.Quiet :=
  inferInstanceAs (Decidable (p.after.warnings = p.before.warnings))

/-- The second template warns, but of a key that the first has not resolved. -/
theorem expand_append_shared :
    let start : Run Empty Unit := { pools := fun place => (nomatch place), draws := .cycle [] }
    (sharedScope.expand "{{b}}{{c}}".toList start).2.warnings = 1 ∧
      (sharedScope.expand ("{{a}}".toList ++ "{{b}}{{c}}".toList) start).1 =
        (sharedScope.expand "{{a}}".toList start).1 ++
          (sharedScope.expand "{{b}}{{c}}".toList start).1 := by
  intro start
  have poolless : ∀ store ∈ sharedScope.store, ∀ key place,
      store key sharedScope.language ≠ some (.pool place) := fun _ _ _ place => (nomatch place)
  exact ⟨by decide +kernel, expand_append poolless (by decide +kernel) (by decide +kernel) _ _
    (by decide +kernel)⟩

/-- A scope with two keys that refer to each other. -/
def mutualTexts : Scope Empty Unit where
  store := some fun key _ =>
    if key = ['a'] then some (.text "{{b}}".toList)
    else if key = ['b'] then some (.text "{{a}}".toList)
    else none
  language := ()
  fields := []
  maxDepth := defaultMaxDepth
  tracing := false

/-- In front of the second key the first one leaves a text for it that was found below the first,
where the guard refuses that one. By itself the second key comes to the other text. -/
theorem expand_append_fails :
    let start : Run Empty Unit := { pools := fun place => (nomatch place), draws := .cycle [] }
    let both := (mutualTexts.expand ("{{a}}".toList ++ "{{b}}".toList) start).1
    let apart :=
      (mutualTexts.expand "{{a}}".toList start).1 ++ (mutualTexts.expand "{{b}}".toList start).1
    (∀ store ∈ mutualTexts.store, ∀ key place,
      store key mutualTexts.language ≠ some (.pool place)) ∧
      (Template.read "{{a}}".toList).Complete ∧ "{{a}}".toList.getLast? ≠ some '{' ∧
      both = ['a', 'a'] ∧ apart = ['a', 'b'] ∧ both ≠ apart := by
  intro start both apart
  refine ⟨fun _ _ _ place => (nomatch place), ?_⟩
  decide +kernel

-- The guard on the depth does the same, and it is enough that it warns in the second call.
example :
    let texts : Scope Empty Unit := {
      store := some fun key _ =>
        if key = ['k'] then some (.text "{{x}}".toList)
        else if key = ['x'] then some (.text ['y'])
        else none
      language := ()
      fields := []
      maxDepth := 1
      tracing := false }
    let start : Run Empty Unit := { pools := fun place => (nomatch place), draws := .cycle [] }
    (texts.expand "{{x}}{{k}}{{k}}".toList start).1 = ['y', 'y', 'y'] ∧
      (texts.expand "{{x}}{{k}}".toList start).1 = ['y', 'y'] ∧
      (texts.expand "{{k}}".toList start).1 = ['x'] := by
  decide +kernel

end Scope

end Phrasebook
