import Phrasebook.Proofs.Expansion.Lookups
import Phrasebook.Proofs.Package.Agreement
import Phrasebook.Proofs.Package.Reading

/-!
# The fallback language

A package asks its fallback language for the keys that are missing from the language of a request,
one by one and on every level of the recursion. A request can tell two fallback languages apart only
by a key that it looks up, that is missing from its own language, and for which their files do not
have the same text (`Package.Alike`). Without such a key the two packages answer alike and do the
same on the way (`answer_alike`); so does any fallback language and none, as long as the language of
the request has every key that is looked up.
-/

namespace Phrasebook

namespace Package

/-- The package with another fallback language, or with none. -/
def withFallback (p : Package) (fallback : Option Language) : Package := { p with fallback }

/-- What the file of a fallback language has for a key, if there are both. -/
def behind (p : Package) (fallback : Option Language) (key : Text) : Option Entry :=
  fallback.bind fun language => (p.entryIn? language key).map Prod.snd

/-- For a key, one fallback language is as good as another: the language of the request has the key
itself, or neither of the two has it, or both have the same text for it. -/
inductive Alike (p : Package) (language : Language) (fallback other : Option Language)
    (key : Text) : Prop where
  | own (has : (p.entryIn? language key).isSome)
  | missing (neither : p.behind fallback key = none ∧ p.behind other key = none)
  | text (t : Text)
    (both : p.behind fallback key = some (.text t) ∧ p.behind other key = some (.text t))

variable {p : Package} {language : Language} {fallback other : Option Language} {key : Text}

/-- The entry of a key in a language or else in the fallback language. -/
def lookedUp (p : Package) (language : Language) (key : Text) : Option Entry :=
  let found := p.entry? language key
  found.map Prod.snd

/-- A key that the language of the request has is found there, whatever the fallback language is. -/
theorem entry_own {found : Language × Entry} (own : p.entryIn? language key = some found)
    (fallback : Option Language) :
    Package.entry? (p.withFallback fallback) language key = some found := by
  have same : (p.withFallback fallback).entryIn? language key = some found := own
  unfold entry?
  rw [same]

/-- Any other key finds what stands behind the language. -/
theorem lookedUp_behind (missing : p.entryIn? language key = none) (fallback : Option Language) :
    (p.withFallback fallback).lookedUp language key = p.behind fallback key := by
  have same : (p.withFallback fallback).entryIn? language key = none := missing
  cases fallback with
  | none =>
    simp only [lookedUp, entry?, same]
    rfl
  | some l =>
    have found : Package.entry? (p.withFallback (some l)) language key =
        if l = language then none else p.entryIn? l key := by
      unfold entry?
      rw [same]
      rfl
    rw [lookedUp, found, behind, Option.bind_some]
    split
    · next own => rw [own, missing]
    · rfl

theorem find_missing (h : p.lookedUp language key = none) : p.find key language = none := by
  have missing : p.entry? language key = none := Option.map_eq_none_iff.1 h
  simp only [find, missing]

theorem find_text {t : Text} (h : p.lookedUp language key = some (.text t)) :
    p.find key language = some (.text t) := by
  obtain ⟨found, entry, text⟩ := Option.map_eq_some_iff.1 h
  obtain ⟨l, e⟩ := found
  obtain rfl : e = .text t := text
  simp only [find, entry]

/-- As stores, packages with fallback languages that are alike for a key hold the same for it. -/
theorem Alike.find (alike : p.Alike language fallback other key) :
    (p.withFallback fallback).find key language = (p.withFallback other).find key language := by
  cases own : p.entryIn? language key with
  | some found => simp only [Package.find, entry_own own]
  | none =>
    have stands := lookedUp_behind own
    cases alike with
    | own has =>
      rw [own] at has
      cases has
    | missing neither =>
      rw [find_missing ((stands fallback).trans neither.1),
        find_missing ((stands other).trans neither.2)]
    | text t both =>
      rw [find_text ((stands fallback).trans both.1), find_text ((stands other).trans both.2)]

/-- What a package is asked for that is expanded. -/
inductive Query where
  | string (key : Text)
  | segments (key : Text)
  | process (template : Text)

/-- The request that a query is in a language, with some fields. -/
def Query.request (language : Language) (fields : List (Option Field)) : Query → Request
  | .string key => .string language fields key
  | .segments key => .segments language fields key
  | .process template => .process language fields template

/-- The answer to a query, with all that happened on the way. -/
def answer (r : Resolver) (p : Package) (draws : Draws) (language : Language)
    (fields : List (Option Field)) : Query → Reading Reply
  | .string key =>
    let o := p.string r draws language fields key
    { o with value := .text o.value }
  | .segments key =>
    let o := p.string r draws language fields key
    { o with value := .segments (o.value.mapM segmentsOf) }
  | .process template =>
    let o := p.processString r draws language fields template
    { o with value := .text (some o.value) }

theorem read_request (r : Resolver) (p : Package) (draws : Draws) (language : Language)
    (fields : List (Option Field)) (query : Query) :
    let o := p.answer r draws language fields query
    read r (p, draws) (query.request language fields) = (o.value, o.left p) := by
  cases query <;> rfl

/-- A reading whose package has another fallback language afterwards. -/
def Reading.withFallback {α : Type} (o : Reading α) (fallback : Option Language) : Reading α :=
  { o with shelf := o.shelf.map fun p => p.withFallback fallback }

section Answers

variable {r : Resolver} {draws : Draws} {fields : List (Option Field)} {α : Type}

/-- Where two actions go alike as long as the stores hold the same for the keys that the first one
looks up, fallback languages that are alike for these keys give the same outcome. -/
theorem perform_of_alike {act act' : Step PoolPlace Language α}
    (goes : (∀ e ∈ (act { pools := p.pools, draws }).2.trail, e.SameFor
        (p.withFallback fallback).find (p.withFallback other).find language) →
      act' { pools := p.pools, draws } = act { pools := p.pools, draws })
    (alike : ∀ k ∈ (Resolver.perform shelf (some (p.withFallback fallback)) draws act).lookups.map
      Prod.fst, p.Alike language fallback other k) :
    Resolver.perform shelf (some (p.withFallback other)) draws act' =
      Reading.withFallback (Resolver.perform shelf (some (p.withFallback fallback)) draws act)
        other := by
  have run : act' (Resolver.start shelf (some (p.withFallback other)) draws) =
      act { pools := p.pools, draws } := by
    refine goes fun e he k asked found => (alike k ?_).find
    refine List.mem_map.2 ⟨(k, asked), List.mem_filterMap.2 ⟨e, ?_, found⟩, rfl⟩
    exact List.mem_reverse.2 he
  rw [Resolver.perform_of_run run]
  rfl

/-- Fallback languages that are alike for the keys that an answer looks up give the same answer. -/
theorem answer_of_alike {query : Query}
    (alike : ∀ k ∈ ((p.withFallback fallback).answer r draws language fields query).lookups.map
      Prod.fst, p.Alike language fallback other k) :
    (p.withFallback other).answer r draws language fields query =
      ((p.withFallback fallback).answer r draws language fields query).withFallback other := by
  let scope := r.scope shelf (some (p.withFallback fallback)) language fields
  let finish (value : Option Text) : Option Text := value.map (Color.translate Color.alternateSign)
  cases query with
  | string key =>
    have same := perform_of_alike (scope.expandKey_withStore rfl key) alike
    exact congrArg (fun o : Reading (Option Text) =>
      { o with value := Reply.text (finish o.value) }) same
  | segments key =>
    have same := perform_of_alike (scope.expandKey_withStore rfl key) alike
    exact congrArg (fun o : Reading (Option Text) =>
      { o with value := Reply.segments ((finish o.value).mapM segmentsOf) }) same
  | process template =>
    have same := perform_of_alike (scope.expand_withStore rfl template) alike
    exact congrArg (fun o : Reading Text => { o with value := Reply.text (some o.value) }) same

end Answers

/-- **A fallback language adds only what is missing.** Let a package be asked to expand a key, the
segments of a key, or a template, in some language. If without a fallback language that language has
every key that is looked up on the way, then with any fallback language the answer is the same, a
fault included, and so are all lookups, rolls and notes in their order, the pools and the draws. So
it is with one fallback language and with another, none included, if for every key that is looked up
and missing from the language of the request their files have the same text, or neither has an
entry. -/
theorem answer_alike (r : Resolver) (p : Package) (draws : Draws) (language : Language)
    (fields : List (Option Field)) (query : Query) :
    let answered (fallback : Option Language) :=
      (p.withFallback fallback).answer r draws language fields query
    let keys (fallback : Option Language) := (answered fallback).lookups.map Prod.fst
    ((∀ k ∈ keys none, (p.entryIn? language k).isSome) →
      ∀ fallback, answered fallback = (answered none).withFallback fallback) ∧
    ∀ fallback other, (∀ k ∈ keys fallback, p.Alike language fallback other k) →
      answered other = (answered fallback).withFallback other :=
  ⟨fun own _ => answer_of_alike fun k hk => .own (own k hk), fun _ _ alike => answer_of_alike alike⟩

/-- A package of three languages. A German text has a hole for a key that is a German pool, and one
for a key that is missing there. -/
def backed : Package where
  directory := ['.']
  name := ['p']
  catalogs := [
    (.german, ((Catalog.new "p_de.yml".toList .german).add ['g'] (.text "{{n}}{{X}}".toList)).add
      ['n'] (.pool (.ofList .sequential [['a'], ['b']] none))),
    (.english, (Catalog.new "p_en.yml".toList .english).add ['x'] (.text "[@".toList)),
    (.french, ((Catalog.new "p_fr.yml".toList .french).add ['n'] (.text ['c'])).add
      ['x'] (.text "[@".toList))]

/-- The pool is all that its own key needs. The text with the holes ends in the same fault behind
English and behind French, after one roll of the German pool. -/
theorem answer_alike_backed :
    let answered (fallback : Option Language) (query : Query) :=
      (backed.withFallback fallback).answer {} (.cycle []) .german [] query
    let keys (fallback : Option Language) (query : Query) :=
      (answered fallback query).lookups.map Prod.fst
    (∀ k ∈ keys none (.string ['n']), (backed.entryIn? .german k).isSome) ∧
      answered (some .french) (.string ['n']) =
        (answered none (.string ['n'])).withFallback (some .french) ∧
      keys (some .english) (.segments ['g']) = [['g'], ['n'], ['X']] ∧
      (∀ k ∈ keys (some .english) (.segments ['g']),
        backed.Alike .german (some .english) (some .french) k) ∧
      answered (some .french) (.segments ['g']) =
        (answered (some .english) (.segments ['g'])).withFallback (some .french) ∧
      (answered (some .english) (.segments ['g'])).value.fault? = some .unterminated ∧
      ((answered (some .english) (.segments ['g'])).shelf.map
        fun p => (p.pools (.german, ['n'])).cursor) = some 1 := by
  intro answered keys
  obtain ⟨own, -⟩ := answer_alike {} backed (.cycle []) .german [] (.string ['n'])
  obtain ⟨-, alike⟩ := answer_alike {} backed (.cycle []) .german [] (.segments ['g'])
  have pool : ∀ k ∈ keys none (.string ['n']), (backed.entryIn? .german k).isSome := by
    decide +kernel
  have looked : keys (some .english) (.segments ['g']) = [['g'], ['n'], ['X']] := by
    decide +kernel
  have behind : ∀ k ∈ keys (some .english) (.segments ['g']),
      backed.Alike .german (some .english) (some .french) k := by
    rw [looked]
    intro k hk
    simp only [List.mem_cons, List.not_mem_nil, or_false] at hk
    rcases hk with rfl | rfl | rfl
    · exact .own (by decide +kernel)
    · exact .own (by decide +kernel)
    · exact .text "[@".toList ⟨rfl, rfl⟩
  exact ⟨pool, own pool (some .french), looked, behind, alike (some .english) (some .french) behind,
    by decide +kernel, by decide +kernel⟩

end Package

end Phrasebook
