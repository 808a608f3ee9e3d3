import Phrasebook.Proofs.Expansion.Turning
import Phrasebook.Proofs.Package.Standing

/-!
# Reading moves only cursors

A package is read in nine ways (`Request`), some of which end in a fault after pools have turned.
None of them does more to a package than a call does to its pools. Rewinding forgets the cursors of
pools with candidates that rotate and the positions of the sources of draws, and nothing else: the
languages, the keys in their order, the texts, and the policies and candidates of pools stay where
they are. After any sequence of requests the package is the same but for what rewinding forgets, and
all cursors are in range (`readAll_onward`).

A call hands its pools back by their places, so it matters that no language and no key stands twice;
that is so in every package that loading, appending, writing and reading can lead to (`Reached`).
-/

namespace Phrasebook

/-- The entry, rewound if it is a pool. -/
def Entry.rewound : Entry → Entry
  | .text t => .text t
  | .pool p => .pool p.rewound

theorem Entry.rewound_eq_text {e : Entry} {t : Text} : e.rewound = .text t ↔ e = .text t := by
  cases e <;> simp [Entry.rewound]

namespace Entries

variable {es : Entries} {pools : Text → Pool}

/-- The entries with all their pools rewound. -/
def rewound (es : Entries) : Entries := ⟨es.toList.map fun e => (e.1, e.2.rewound)⟩

theorem lookup_map {α β γ : Type} [BEq α] (f : β → γ) (key : α) (es : List (α × β)) :
    (es.map fun e => (e.1, f e.2)).lookup key = (es.lookup key).map f := by
  induction es with
  | nil => rfl
  | cons e es ih =>
    obtain ⟨k, b⟩ := e
    simp only [List.map_cons, List.lookup_cons, ih]
    split <;> rfl

@[simp] theorem keys_rewound (es : Entries) : es.rewound.keys = es.keys := by
  simp only [rewound, keys, List.map_map]
  rfl

theorem find?_rewound (es : Entries) (key : Text) :
    es.rewound.find? key = (es.find? key).map Entry.rewound := lookup_map _ _ _

theorem pools_rewound (es : Entries) (key : Text) :
    es.rewound.pools key = (es.pools key).rewound := by
  have found : es.rewound.toList.lookup key = (es.toList.lookup key).map Entry.rewound :=
    lookup_map _ _ _
  simp only [pools, found]
  match es.toList.lookup key with
  | none => rfl
  | some (.text t) => rfl
  | some (.pool p) => rfl

theorem pools_of_listed (h : es.keys.Nodup) {key : Text} {p : Pool}
    (listed : (key, .pool p) ∈ es.toList) : es.pools key = p := by
  simp only [Entries.pools, lookup_of_nodup h listed]

theorem rewound_restock (h : es.keys.Nodup)
    (same : ∀ key, (pools key).rewound = (es.pools key).rewound) :
    (es.restock pools).rewound = es.rewound := by
  simp only [rewound, restock, List.map_map]
  refine congrArg Entries.mk (List.map_congr_left fun e he => ?_)
  obtain ⟨key, t | p⟩ := e
  · rfl
  · have turned : (pools key).rewound = p.rewound := by rw [same, pools_of_listed h he]
    exact congrArg (fun q => (key, Entry.pool q)) turned

theorem Standing.inRange_pools (h : es.Standing) (key : Text) : (es.pools key).InRange := by
  unfold Entries.pools
  split
  · next p found =>
    obtain ⟨before, later, listed, -⟩ := List.lookup_eq_some_iff.1 found
    exact h.inRange (key, .pool p) (listed ▸ by simp)
  · exact .inr rfl

theorem Standing.restock (h : es.Standing)
    (inRange : ∀ key, (es.pools key).InRange → (pools key).InRange) :
    (es.restock pools).Standing := by
  refine ⟨keys_restock es pools ▸ h.keys, fun e he => ?_⟩
  obtain ⟨⟨key, t | p⟩, listed, rfl⟩ := List.mem_map.1 he
  · trivial
  · apply inRange
    rw [pools_of_listed h.keys listed]
    exact h.inRange _ listed

end Entries

/-- The state that is left behind, where `shelf` was asked if any was. -/
def Outcome.left {σ ι lang α : Type} (o : Outcome σ ι lang α) (shelf : σ) : σ × Draws :=
  (o.shelf.getD shelf, o.draws)

/-- The catalog with all its pools rewound. -/
def Catalog.rewound (c : Catalog) : Catalog := { c with entries := c.entries.rewound }

namespace Package

variable {p : Package} {r : Resolver} {draws : Draws} {α : Type}

/-- The package with all its pools rewound. -/
def rewound (p : Package) : Package :=
  { p with catalogs := p.catalogs.map fun e => (e.1, e.2.rewound) }

section Rewound

@[simp] theorem languages_rewound (p : Package) : p.rewound.languages = p.languages := by
  simp only [rewound, Package.languages, List.map_map]
  rfl

theorem catalog?_rewound (p : Package) (language : Language) :
    p.rewound.catalog? language = (p.catalog? language).map Catalog.rewound :=
  Entries.lookup_map _ _ _

theorem pools_rewound (p : Package) (place : PoolPlace) :
    p.rewound.pools place = (p.pools place).rewound := by
  simp only [Package.pools, catalog?_rewound]
  match p.catalog? place.1 with
  | none => rfl
  | some c => exact c.entries.pools_rewound place.2

variable {q : Package}

/-- The keys of a language and their order can be told from the rewound package. -/
theorem keys_of_rewound_eq (same : q.rewound = p.rewound) (language : Language) :
    (q.catalog? language).map (·.entries.keys) = (p.catalog? language).map (·.entries.keys) := by
  have keys (p : Package) : (p.catalog? language).map (·.entries.keys) =
      (p.rewound.catalog? language).map (·.entries.keys) := by
    simp [catalog?_rewound, Catalog.rewound, Function.comp_def]
  rw [keys q, same, ← keys p]

/-- So can the texts of a language. -/
theorem texts_of_rewound_eq (same : q.rewound = p.rewound) (language : Language) (key t : Text) :
    q.entryIn? language key = some (language, .text t) ↔
      p.entryIn? language key = some (language, .text t) := by
  have texts (p : Package) : p.entryIn? language key = some (language, .text t) ↔
      ∃ c, p.rewound.catalog? language = some c ∧ c.entries.find? key = some (.text t) := by
    unfold entryIn?
    rw [catalog?_rewound]
    match p.catalog? language with
    | none => simp
    | some c => simp [Catalog.rewound, Entries.find?_rewound, Entry.rewound_eq_text]
  rw [texts q, same, ← texts p]

end Rewound

section Pools

variable {pools : PoolPlace → Pool}

theorem pools_of_listed (h : p.Standing) {e : Language × Catalog} (listed : e ∈ p.catalogs)
    (key : Text) : p.pools (e.1, key) = e.2.entries.pools key := by
  have found : p.catalog? e.1 = some e.2 := Entries.lookup_of_nodup h.languages listed
  simp only [Package.pools, found]

theorem rewound_restock (h : p.Standing)
    (same : ∀ place, (pools place).rewound = (p.pools place).rewound) :
    (p.restock pools).rewound = p.rewound := by
  simp only [rewound, restock, List.map_map]
  refine congrArg (fun catalogs => { p with catalogs }) (List.map_congr_left fun e he => ?_)
  -- the pools of this catalog are those at its places, for its language stands once
  have turned : (e.2.entries.restock fun key => pools (e.1, key)).rewound = e.2.entries.rewound :=
    Entries.rewound_restock (h.entries e he).keys fun key => by
      rw [same, pools_of_listed h he]
  exact congrArg (fun entries => (e.1, { e.2 with entries })) turned

theorem Standing.inRange_pools (h : p.Standing) (place : PoolPlace) : (p.pools place).InRange := by
  unfold Package.pools
  split
  · next c found => exact (h.catalog found).inRange_pools place.2
  · exact .inr rfl

theorem Standing.restock (h : p.Standing)
    (inRange : ∀ place, (p.pools place).InRange → (pools place).InRange) :
    (p.restock pools).Standing := by
  have languages : (p.restock pools).languages = p.languages := by
    simp only [Package.languages, Package.restock, List.map_map]
    rfl
  refine ⟨languages ▸ h.languages, fun e he => ?_⟩
  obtain ⟨e, listed, rfl⟩ := List.mem_map.1 he
  refine (h.entries e listed).restock fun key within => inRange (e.1, key) ?_
  rwa [pools_of_listed h listed]

/-- What is found for a key is the entry under its small form in the catalog of the language in
which it is found. -/
theorem catalog_of_entry {language l : Language} {key : Text} {e : Entry}
    (h : p.entry? language key = some (l, e)) :
    ∃ c, p.catalog? l = some c ∧ c.entries.toList.lookup (Text.lower key) = some e := by
  have inOne {language : Language} (h : p.entryIn? language key = some (l, e)) :
      ∃ c, p.catalog? l = some c ∧ c.entries.toList.lookup (Text.lower key) = some e := by
    unfold entryIn? at h
    split at h
    · next c catalog =>
      obtain ⟨e, entry, same⟩ := Option.map_eq_some_iff.1 h
      obtain ⟨rfl, rfl⟩ := Prod.mk.inj same
      exact ⟨c, catalog, entry⟩
    · cases h
  unfold entry? at h
  split at h
  · next first => exact inOne (first.trans h)
  · split at h
    · cases h
    · exact inOne h
  · cases h

/-- An entry that is a pool stands at the place of its language and small key. -/
theorem pools_of_entry? {language found : Language} {key : Text} {pool : Pool}
    (h : p.entry? language key = some (found, .pool pool)) :
    p.pools (found, Text.lower key) = pool := by
  obtain ⟨c, catalog, listed⟩ := catalog_of_entry h
  simp only [Package.pools, catalog, Entries.pools, listed]

end Pools

/-- A later state of a package and the source of draws that its pools share. It differs from the
state before by positions only, and the package is in order. -/
structure Onward (before after : Package × Draws) : Prop where
  package : after.1.rewound = before.1.rewound
  draws : after.2.rewound = before.2.rewound
  standing : after.1.Standing

theorem Onward.refl {state : Package × Draws} (h : state.1.Standing) : Onward state state :=
  ⟨rfl, rfl, h⟩

theorem Onward.trans {before mid after : Package × Draws} (first : Onward before mid)
    (second : Onward mid after) : Onward before after :=
  ⟨second.package.trans first.package, second.draws.trans first.draws, second.standing⟩

/-- What a reading leaves behind is a later state. -/
def Moves (o : Reading α) (before : Package × Draws) : Prop :=
  ∃ after, o.shelf = some after ∧ Onward before (after, o.draws)

/-- An action that only turns pools and takes draws does no more to a package. -/
theorem Standing.perform (h : p.Standing) (draws : Draws) {act : Step PoolPlace Language α}
    (onward : ∀ run, Run.Onward run (act run).2) :
    Moves (Resolver.perform shelf (some p) draws act) (p, draws) := by
  have later := onward { pools := p.pools, draws }
  exact ⟨_, rfl, rewound_restock h later.pools, later.draws, h.restock later.inRange⟩

theorem Standing.expand (h : p.Standing) (draws : Draws) (language : Language)
    (fields : List (Option Field)) (template : Text) :
    Moves (r.expand shelf (some p) draws language fields template) (p, draws) :=
  h.perform draws (Scope.serve_onward (r.scope shelf (some p) language fields) (.expand template))

theorem Standing.string (h : p.Standing) (draws : Draws) (language : Language)
    (fields : List (Option Field)) (key : Text) :
    Moves (p.string r draws language fields key) (p, draws) :=
  h.perform draws (Scope.serve_onward (r.scope shelf (some p) language fields) (.expandKey key))

/-- A search goes on from the state that the search in one language left. -/
theorem Standing.stringIn (h : p.Standing) (draws : Draws) (fields : List (Option Field))
    (key : Text) (languages : List Language) :
    Moves (stringIn r draws fields key languages p) (p, draws) := by
  induction languages generalizing p draws with
  | nil => exact ⟨p, rfl, .refl h⟩
  | cons language rest ih =>
    have first : Moves (p.string r draws language fields key) (p, draws) :=
      h.string draws language fields key
    unfold Package.stringIn
    dsimp only
    split
    · exact first
    · obtain ⟨mid, left, onward⟩ := first
      obtain ⟨after, left', onward'⟩ :=
        ih onward.standing (p.string r draws language fields key).draws
      rw [left]
      exact ⟨after, left', onward.trans onward'⟩

/-- What is asked of a package. A template engine has a resolver of its own. -/
inductive Request where
  | lookup (language : Language) (key : Text)
  | rawString (language : Language) (key : Text)
  | string (language : Language) (fields : List (Option Field)) (key : Text)
  | anyString (fields : List (Option Field)) (key : Text)
  | strings (language : Language) (fields : List (Option Field)) (key : Text)
  | anyStrings (key : Text)
  | segments (language : Language) (fields : List (Option Field)) (key : Text)
  | process (language : Language) (fields : List (Option Field)) (template : Text)
  | render (engine : Resolver) (language : Language) (bindings : List (Text × Value))
    (template : Text)

/-- What a request is answered with. -/
inductive Reply where
  | entry (found : Option Entry)
  | text (found : Option Text)
  | lines (found : Option (List Text))
  | segments (found : Except MarkupFault (Option (List Segment)))

/-- The fault that the finished string of a request ends in. -/
def Reply.fault? : Reply → Option MarkupFault
  | .segments (.error f) => some f
  | _ => none

/-- Answer a request, with the state afterwards. -/
def read (r : Resolver) (state : Package × Draws) : Request → Reply × Package × Draws
  | .lookup language key =>
    let found := Package.entry? state.1 language key
    (.entry (found.map Prod.snd), state)
  | .rawString language key =>
    let (found, after) := state.1.rawString state.2 language key
    (.text found, after)
  | .string language fields key =>
    let o := state.1.string r state.2 language fields key
    (.text o.value, o.left state.1)
  | .anyString fields key =>
    let o := state.1.anyString r state.2 fields key
    (.text o.value, o.left state.1)
  | .strings language fields key =>
    let o := state.1.string r state.2 language fields key
    (.lines (o.value.map Value.lines), o.left state.1)
  | .anyStrings key =>
    let o := state.1.anyString r state.2 [] key
    (.lines (o.value.map Value.lines), o.left state.1)
  | .segments language fields key =>
    let o := state.1.string r state.2 language fields key
    (.segments (o.value.mapM segmentsOf), o.left state.1)
  | .process language fields template =>
    let o := state.1.processString r state.2 language fields template
    (.text (some o.value), o.left state.1)
  | .render engine language bindings template =>
    let (o, _) := engine.render shelf (some state.1) state.2 language bindings template
    (.text (some o.value), o.left state.1)

/-- Answer some requests one after the other. -/
def readAll (r : Resolver) : List Request → Package × Draws → List Reply × Package × Draws
  | [], state => ([], state)
  | request :: rest, state =>
    let (reply, after) := read r state request
    let (replies, last) := readAll r rest after
    (reply :: replies, last)

theorem Moves.left {o : Reading α} {before : Package × Draws} (h : Moves o before)
    (p : Package) : Onward before (o.left p) := by
  obtain ⟨after, left, onward⟩ := h
  rwa [Outcome.left, left]

theorem Standing.rawString (h : p.Standing) (draws : Draws) (language : Language) (key : Text) :
    Onward (p, draws) (p.rawString draws language key).2 := by
  unfold Package.rawString
  split
  · exact .refl h
  · exact .refl h
  · next found pool entry =>
    have stands : p.pools (found, Text.lower key) = pool := pools_of_entry? entry
    obtain ⟨turned, drawn⟩ := pool.rewound_roll draws
    let rolled (q : PoolPlace) : Pool :=
      if q = (found, Text.lower key) then (pool.roll draws).2.1 else p.pools q
    have package : (p.restock rolled).rewound = p.rewound := rewound_restock h fun q => by
      by_cases same : q = (found, Text.lower key)
      · simp only [rolled, same, if_true, turned, stands]
      · simp only [rolled, same, if_false]
    have standing : (p.restock rolled).Standing := h.restock fun q within => by
      by_cases same : q = (found, Text.lower key)
      · rw [same, stands] at within
        simpa only [rolled, same, if_true] using Pool.inRange_roll within draws
      · simpa only [rolled, same, if_false] using within
    exact ⟨package, drawn, standing⟩

/-- One request moves only positions. -/
theorem Standing.read {state : Package × Draws} (h : state.1.Standing) (request : Request) :
    Onward state (read r state request).2 := by
  cases request with
  | lookup language key => exact .refl h
  | rawString language key => exact h.rawString state.2 language key
  | string language fields key => exact (h.string state.2 language fields key).left _
  | anyString fields key => exact (h.stringIn state.2 fields key _).left _
  | strings language fields key => exact (h.string state.2 language fields key).left _
  | anyStrings key => exact (h.stringIn state.2 [] key _).left _
  | segments language fields key => exact (h.string state.2 language fields key).left _
  | process language fields template => exact (h.expand state.2 language fields template).left _
  | render engine language bindings template =>
    simp only [Package.read, Resolver.render]
    split
    · exact (h.expand state.2 language _ template).left _
    · exact .refl h

theorem Standing.readAll {state : Package × Draws} (h : state.1.Standing)
    (requests : List Request) : Onward state (readAll r requests state).2 := by
  induction requests generalizing state with
  | nil => exact .refl h
  | cons request rest ih =>
    have first : Onward state (Package.read r state request).2 := h.read request
    exact first.trans (ih first.standing)

/-- The packages that there can be. Whatever is written has its cursor in range, as every pool has
from the start. -/
inductive Reached : Package → Prop where
  | new (directory name : Text) (fallback : Option Language) : Reached (new directory name fallback)
  | load {p : Package} (before : Reached p) (tree : Tree) (logger : Text) :
    Reached (p.load tree logger).value
  | append {p : Package} (before : Reached p) (tree : Tree) (logger packageName : Text) :
    Reached (p.append tree logger packageName).value
  | add {p : Package} (before : Reached p) {language : Language} {c : Catalog}
    (loaded : p.catalog? language = some c) (key : Text) {entry : Entry}
    (inRange : entry.InRange) : Reached (p.withCatalog language (c.add key entry))
  | merge {p : Package} (before : Reached p) {language : Language} {c : Catalog}
    (loaded : p.catalog? language = some c) (tree : Tree) (logger path : Text) :
    Reached (p.withCatalog language (c.merge tree logger path).value)
  | read {p : Package} (before : Reached p) (r : Resolver) (draws : Draws) (request : Request) :
    Reached (read r (p, draws) request).2.1

theorem Reached.standing (h : p.Reached) : p.Standing := by
  induction h with
  | new directory name fallback => exact standing_new directory name fallback
  | load _ tree logger ih => exact ih.load tree logger
  | append _ tree logger packageName ih => exact ih.append tree logger packageName
  | @add p _ language c loaded key entry inRange ih =>
    exact ih.withCatalog language ((ih.catalog loaded).insert key inRange)
  | @merge p _ language c loaded tree logger path ih =>
    exact ih.withCatalog language (Catalog.standing_merge tree logger (ih.catalog loaded) path)
  | read _ r draws request ih =>
    exact Onward.standing (ih.read request)

/-- After any sequence of requests, the languages of a package that there can be, the keys of every
language in their order and the texts are as they were before. So are the policies and candidates
of pools, and the cursors of pools that are random or empty; all cursors are in range. The source of
draws has the same script. -/
theorem readAll_onward {p : Package} (reached : p.Reached) (r : Resolver) (draws : Draws)
    (requests : List Request) :
    let left := (readAll r requests (p, draws)).2
    left.1.rewound = p.rewound ∧ left.2.script = draws.script ∧
      left.1.languages = p.languages ∧
      (∀ language, (left.1.catalog? language).map (·.entries.keys) =
        (p.catalog? language).map (·.entries.keys)) ∧
      (∀ language key t, left.1.entryIn? language key = some (language, .text t) ↔
        p.entryIn? language key = some (language, .text t)) ∧
      ∀ place, (left.1.pools place).policy = (p.pools place).policy ∧
        (left.1.pools place).candidates = (p.pools place).candidates ∧
        ((p.pools place).policy = .random ∨ (p.pools place).candidates = [] →
          (left.1.pools place).cursor = (p.pools place).cursor) ∧
        (left.1.pools place).InRange := by
  intro left
  obtain ⟨package, drawn, standing⟩ : Onward (p, draws) left := reached.standing.readAll requests
  have script : left.2.rewound.script = draws.rewound.script := congrArg Draws.script drawn
  refine ⟨package, script, ?_, keys_of_rewound_eq package, texts_of_rewound_eq package,
    fun place => ?_⟩
  · rw [← languages_rewound, package, languages_rewound]
  · have turned : (left.1.pools place).rewound = (p.pools place).rewound := by
      rw [← pools_rewound, package, pools_rewound]
    obtain ⟨policy, candidates, cursor⟩ := Pool.eq_of_rewound_eq turned
    exact ⟨policy, candidates, cursor, standing.inRange_pools place⟩

/-- A folder with the file of a package. There is one pool in it, whose first candidate is no
markup. -/
def tipTree : Tree := .folder [("p_en.yml".toList, .file (.document (.ofValue (.dict [
  (.ofText ['t'], .dict [(.ofText "pool".toList, .list [.ofText "[@".toList, .ofText ['u']])])]))))]

/-- The package of that folder. -/
def tips : Package := ((new ['.'] ['p'] (some .english)).load tipTree []).value

/-- To ask for German segments falls back to the pool and ends in a fault. The cursor has moved all
the same, and nothing else has. -/
theorem readAll_onward_faulty :
    let requests : List Request := [.lookup .english ['t'], .segments .german [] ['T'],
      .process .german [] "no hole".toList]
    let (replies, left, _) := readAll {} requests (tips, .cycle [])
    replies.map Reply.fault? = [none, some .unterminated, none] ∧
      (tips.pools (.english, ['t'])).cursor = 0 ∧ (left.pools (.english, ['t'])).cursor = 1 ∧
      (left.pools (.english, ['t'])).candidates = ["[@".toList, ['u']] ∧
      left.languages = [.english] := by
  intro requests
  have reached : tips.Reached := .load (.new _ _ _) _ _
  obtain ⟨-, -, languages, -, -, pools⟩ := readAll_onward reached {} (.cycle []) requests
  obtain ⟨-, candidates, -⟩ := pools (.english, ['t'])
  refine ⟨by decide +kernel, by decide +kernel, by decide +kernel, candidates.trans ?_,
    languages.trans ?_⟩
  · decide +kernel
  · decide +kernel

end Package

end Phrasebook
