import Phrasebook.Proofs.Package.Agreement
import Phrasebook.Proofs.Package.Reading

/-!
# The search in any language

A key is tried in one language after the other. An attempt fails exactly where the lookup of the
key, with the fallback language, leads to nothing or to an empty pool (`Package.offers`): a text
that expands to the empty text is a success. A failed attempt looks up its key once and leaves the
package and the draws as they were (`string_missed`). So the search is the attempt in the first
language that offers the key, from the package as it was, and the languages behind it are not asked
(`anyString_first`).
-/

namespace Phrasebook

/-- Is there a text to be had from an entry? A pool has one if it has candidates. -/
def Entry.isUsable : Entry → Bool
  | .text _ => true
  | .pool p => !p.candidates.isEmpty

namespace Entries

theorem Standing.restock_self {es : Entries} (h : es.Standing) : es.restock es.pools = es := by
  refine congrArg Entries.mk ((List.map_congr_left fun e he => ?_).trans (List.map_id _))
  obtain ⟨key, t | p⟩ := e
  · rfl
  · exact congrArg (fun q => (key, Entry.pool q)) (pools_of_listed h.keys he)

end Entries

/-- A roll of an empty pool leaves nothing but its event. -/
theorem Step.rolled_empty {ι lang : Type} [DecidableEq ι] {run : Run ι lang} {place : ι}
    (empty : (run.pools place).candidates = []) (key : Text) :
    Step.rolled key place run = { run with trail := .roll key place none :: run.trail } := by
  have pools : (fun p => if p = place then run.pools place else run.pools p) = run.pools := by
    funext p
    split
    · next same => rw [same]
    · rfl
  simp only [Step.rolled, Pool.roll_empty empty, pools]

/-- Where there is room for one key, a key that is asked for gets it. -/
theorem Scope.expandKey_eq {ι lang : Type} [DecidableEq ι] {scope : Scope ι lang}
    (deep : 1 ≤ scope.maxDepth) (key : Text) :
    ∃ room, scope.expandKey key = scope.stored (room + 1) [] key := by
  refine ⟨scope.maxDepth.toNat - 1, ?_⟩
  have limit : scope.maxDepth.toNat = scope.maxDepth.toNat - 1 + 1 := by omega
  rw [Scope.expandKey, Scope.ask, ← limit]

namespace Package

variable {p : Package} {r : Resolver} {draws : Draws} {language : Language}
variable {fields : List (Option Field)} {key : Text}

theorem Standing.restock_self (h : p.Standing) : p.restock p.pools = p := by
  have same : p.catalogs.map (fun e => (e.1, { e.2 with
      entries := e.2.entries.restock fun key => p.pools (e.1, key) })) = p.catalogs := by
    refine (List.map_congr_left fun e he => ?_).trans (List.map_id _)
    have pools : (fun key => p.pools (e.1, key)) = e.2.entries.pools :=
      funext (pools_of_listed h he)
    rw [pools, (h.entries e he).restock_self]
    rfl
  simp only [Package.restock, same]

/-- Does the lookup of a key in a language lead to a text, or to a pool that has one? -/
def offers (p : Package) (key : Text) (language : Language) : Bool :=
  match p.entry? language key with
  | some (_, entry) => entry.isUsable
  | none => false

/-- What a failed attempt leaves on the trail. -/
def missed (p : Package) (key : Text) (language : Language) : List (Event PoolPlace Language) :=
  .lookup key language [] ::
    match p.entry? language key with
    | some (found, .pool _) => [.roll key (found, Text.lower key) none]
    | _ => []

/-- The first step of an attempt where the language does not offer the key. -/
theorem fetch_missed (missing : p.offers key language = false) :
    Step.fetch p.find language [] key { pools := p.pools, draws } =
      (none, { pools := p.pools, draws, trail := (p.missed key language).reverse }) := by
  unfold offers at missing
  unfold missed
  split at missing
  · next found entry held =>
    cases entry with
    | text t => cases missing
    | pool pool =>
      have place : p.find key language = some (.pool (found, Text.lower key)) := by
        simp only [find, held]
      have stands : p.pools (found, Text.lower key) = pool := pools_of_entry? held
      have empty : pool.candidates = [] := by simpa [Entry.isUsable] using missing
      rw [Step.fetch_pool place, Step.roll_run, Step.rolled_empty (by rw [← empty, ← stands]; rfl)]
      simp only [Step.asked, stands, Pool.roll_empty empty, held]
      rfl
  · next held =>
    have nothing : p.find key language = none := by simp only [find, held]
    rw [Step.fetch_missing nothing]
    simp only [held]
    rfl

/-- The first step of any other attempt gives a text. -/
theorem fetch_offered (h : p.Standing) (offered : p.offers key language = true) :
    (Step.fetch p.find language [] key { pools := p.pools, draws }).1.isSome := by
  unfold offers at offered
  split at offered
  · next found entry held =>
    cases entry with
    | text t =>
      have text : p.find key language = some (.text t) := by simp only [find, held]
      rw [Step.fetch_text text]
      rfl
    | pool pool =>
      have place : p.find key language = some (.pool (found, Text.lower key)) := by
        simp only [find, held]
      have stands : p.pools (found, Text.lower key) = pool := pools_of_entry? held
      have full : pool.candidates ≠ [] := by simpa [Entry.isUsable] using offered
      have inRange : pool.InRange := stands ▸ h.inRange_pools (found, Text.lower key)
      rw [Step.fetch_pool place, Step.roll_run]
      simpa only [Step.asked, stands] using Pool.roll_isSome inRange full draws
  · cases offered

/-- Whatever an attempt looks up, it looks up in its own language. -/
theorem lookups_string {k : Text} {l : Language}
    (asked : (k, l) ∈ (p.string r draws language fields key).lookups) : l = language := by
  let scope := r.scope shelf (some p) language fields
  let own (e : Event PoolPlace Language) : Prop :=
    ∀ asked, e.lookup? = some asked → asked.2 = language
  have primitives : (Scope.adding own).Primitives scope scope fun _ _ => True :=
    Scope.adding_primitives (fun _ _ => nofun) (fun _ _ _ _ => nofun)
      (fun _ _ _ _ _ _ same => (Option.some.inj same) ▸ rfl) fun _ _ _ _ _ _ => trivial
  obtain ⟨more, trail, hmore⟩ := primitives.serve (.expandKey key) (fun _ _ => trivial)
    (fun _ _ => trivial) (Resolver.start shelf (some p) draws)
  obtain ⟨e, happened, same⟩ := List.mem_filterMap.1 asked
  have put : e ∈ more ++ [] := trail ▸ List.mem_reverse.1 happened
  rcases List.mem_append.1 put with new | old
  · exact hmore e new _ same
  · cases old

section Attempts

variable (draws : Draws) (fields : List (Option Field)) (deep : 1 ≤ r.maxDepth)
include deep

/-- An attempt in a language that does not offer the key has no text and leaves all as it was. -/
theorem string_missed (h : p.Standing) (missing : p.offers key language = false) :
    p.string r draws language fields key =
      { value := none, shelf := some p, draws, trail := p.missed key language } := by
  let scope := r.scope shelf (some p) language fields
  obtain ⟨room, expands⟩ : ∃ room, scope.expandKey key = scope.stored (room + 1) [] key :=
    Scope.expandKey_eq deep key
  have asked : scope.expandKey key (Resolver.start shelf (some p) draws) =
      (none, { pools := p.pools, draws, trail := (p.missed key language).reverse }) := by
    rw [expands]
    exact Scope.stored_unfetched rfl List.not_mem_nil (fetch_missed missing)
  have left : r.expandKey shelf (some p) draws language fields key = _ :=
    Resolver.perform_of_run asked
  have back : shelf.restock p p.pools = p := h.restock_self
  rw [string, left]
  simp only [Option.map_some, Option.map_none, back, List.reverse_reverse]

/-- An attempt in a language that offers the key has a text, be it empty. -/
theorem string_offered (h : p.Standing) (offered : p.offers key language = true) :
    (p.string r draws language fields key).value.isSome := by
  let scope := r.scope shelf (some p) language fields
  obtain ⟨room, expands⟩ : ∃ room, scope.expandKey key = scope.stored (room + 1) [] key :=
    Scope.expandKey_eq deep key
  let start := Resolver.start shelf (some p) draws
  obtain ⟨raw, fetched⟩ : ∃ raw, (Step.fetch p.find language [] key start).1 = some raw :=
    Option.isSome_iff_exists.1 (fetch_offered h offered)
  have asked : (scope.expandKey key start).1.isSome := by
    rw [expands, Scope.stored_fetched rfl List.not_mem_nil (Prod.ext fetched rfl) rfl]
    rfl
  have value : (p.string r draws language fields key).value =
      (scope.expandKey key start).1.map (Color.translate Color.alternateSign) := rfl
  rwa [value, Option.isSome_map]

/-- A search leaves the languages that do not offer the key behind and goes on as it began. -/
theorem stringIn_missed (h : p.Standing) {before : List Language}
    (missing : ∀ language ∈ before, p.offers key language = false) (rest : List Language) :
    let later := stringIn r draws fields key rest p
    stringIn r draws fields key (before ++ rest) p =
      { later with trail := before.flatMap (p.missed key) ++ later.trail } := by
  induction before with
  | nil => rfl
  | cons language before ih =>
    obtain ⟨first, others⟩ := List.forall_mem_cons.1 missing
    have failed := string_missed draws fields deep h first
    simp only [List.cons_append, stringIn, failed, Option.getD_some, ih others,
      List.flatMap_cons, List.append_assoc]

theorem stringIn_offered (h : p.Standing) (offered : p.offers key language = true)
    (rest : List Language) : stringIn r draws fields key (language :: rest) p =
      p.string r draws language fields key := by
  obtain ⟨text, found⟩ := Option.isSome_iff_exists.1 (string_offered draws fields deep h offered)
  simp only [stringIn, found]

/-- Where no language offers the key, the search has no text. -/
theorem anyString_missed (h : p.Standing)
    (missing : ∀ language ∈ p.searchOrder, p.offers key language = false) :
    p.anyString r draws fields key = {
      value := none, shelf := some p, draws
      trail := p.searchOrder.flatMap (p.missed key) } := by
  have done := stringIn_missed draws fields deep h missing []
  rw [List.append_nil] at done
  simp only [anyString, done, stringIn, List.append_nil]

section Found

variable {before after : List Language} {first : Language}
variable (h : p.Standing) (order : p.searchOrder = before ++ first :: after)
variable (missing : ∀ language ∈ before, p.offers key language = false)
variable (offered : p.offers key first = true)
include h order missing offered

/-- Otherwise it ends like the attempt in the first language that does. -/
theorem anyString_offered :
    let attempt := p.string r draws first fields key
    p.anyString r draws fields key =
      { attempt with trail := before.flatMap (p.missed key) ++ attempt.trail } := by
  have done := stringIn_missed draws fields deep h missing (first :: after)
  rw [stringIn_offered draws fields deep h offered] at done
  rw [anyString, order, done]

/-- It asks that language and the ones before it. -/
theorem lookups_anyString {k : Text} {language : Language}
    (asked : (k, language) ∈ (p.anyString r draws fields key).lookups) :
    language ∈ before ∨ language = first := by
  rw [anyString_offered draws fields deep h order missing offered, Outcome.lookups,
    List.filterMap_append] at asked
  rcases List.mem_append.1 asked with earlier | last
  · obtain ⟨e, happened, same⟩ := List.mem_filterMap.1 earlier
    obtain ⟨l, listed, happened⟩ := List.mem_flatMap.1 happened
    have failed := string_missed draws fields deep h (missing l listed)
    have asked : (k, language) ∈ (p.string r draws l fields key).lookups := by
      rw [failed]
      exact List.mem_filterMap.2 ⟨e, happened, same⟩
    have own : language = l := lookups_string asked
    exact .inl (own ▸ listed)
  · exact .inr (lookups_string last)

end Found

end Attempts

theorem Standing.nodup_searchOrder (h : p.Standing) : p.searchOrder.Nodup :=
  List.nodup_cons.2 ⟨by simp, h.languages.filter _⟩

/-- **The search ends with the first language that has the key.** Let there be room for one key, and
let a language offer a key if its lookup, with the fallback language, leads to a text or to a pool
with candidates. English is tried first, whether it is loaded or not, and then the other languages
in the order of loading. An attempt in a language that does not offer the key asks for it once, and
moves neither a pool nor the draws. There is no string exactly if no language offers the key.
Otherwise the outcome is that of the string of the first language that does, which is a text, be it
empty, from the same package and draws; only the failed attempts stand on the trail before it. No
language behind it is asked. -/
theorem anyString_first {p : Package} (reached : p.Reached) {r : Resolver} (deep : 1 ≤ r.maxDepth)
    (draws : Draws) (fields : List (Option Field)) (key : Text) :
    let search := p.anyString r draws fields key
    let attempt (language : Language) := p.string r draws language fields key
    (search.value = none ↔ ∀ language ∈ p.searchOrder, p.offers key language = false) ∧
      (search.value = none → search = {
        value := none, shelf := some p, draws
        trail := p.searchOrder.flatMap (p.missed key) }) ∧
      (∀ language, p.offers key language = false → attempt language =
        { value := none, shelf := some p, draws, trail := p.missed key language }) ∧
      ∀ before first after, p.searchOrder = before ++ first :: after →
        (∀ language ∈ before, p.offers key language = false) → p.offers key first = true →
          (attempt first).value.isSome ∧
          search = { attempt first with
            trail := before.flatMap (p.missed key) ++ (attempt first).trail } ∧
          ∀ language ∈ after, ∀ k, (k, language) ∉ search.lookups := by
  intro search attempt
  have h : p.Standing := reached.standing
  have none_iff : search.value = none ↔
      ∀ language ∈ p.searchOrder, p.offers key language = false := by
    refine ⟨fun none => ?_, fun all =>
      congrArg Outcome.value (anyString_missed draws fields deep h all)⟩
    cases found : p.searchOrder.find? (p.offers key) with
    | none => simpa using found
    | some first =>
      obtain ⟨offered, before, after, order, missing⟩ := List.find?_eq_some_iff_append.1 found
      have text : (attempt first).value.isSome := string_offered draws fields deep h offered
      have ended := anyString_offered draws fields deep h order (by simpa using missing) offered
      have value := congrArg Outcome.value ended
      have same : search.value = (attempt first).value := value
      rw [← same, none] at text
      cases text
  refine ⟨none_iff, fun none => anyString_missed draws fields deep h (none_iff.1 none),
    fun language missing => string_missed draws fields deep h missing, ?_⟩
  intro before first after order missing offered
  refine ⟨string_offered draws fields deep h offered,
    anyString_offered draws fields deep h order missing offered, fun language behind k asked => ?_⟩
  -- no language is tried twice
  have once : (before ++ first :: after).Nodup := order ▸ h.nodup_searchOrder
  obtain ⟨-, once', apart⟩ := List.nodup_append.1 once
  rcases lookups_anyString draws fields deep h order missing offered asked with earlier | rfl
  · exact apart language earlier language (.tail _ behind) rfl
  · exact (List.nodup_cons.1 once').1 behind

/-- A folder with one file of a package, which has an entry for one key. -/
def oneTree (file : String) (entry : Value) : Tree :=
  .folder [(file.toList, .file (.document (.ofValue (.dict [(.ofText ['t'], entry)]))))]

/-- A package with a German, a French and an Italian file, loaded in this order. The German one has
an empty pool for the key, and the French one the empty text. -/
def islands : Package :=
  let german := ((new ['.'] ['p'] none).load
    (oneTree "p_de.yml" (.dict [(.ofText "pool".toList, .list [])])) []).value
  let french := (german.load (oneTree "p_fr.yml" (.ofText [])) []).value
  (french.load (oneTree "p_it.yml" (.ofText ['i'])) []).value

/-- English is tried first, although it is not loaded, and the search ends with the empty French
text. -/
theorem anyString_first_islands :
    let search := islands.anyString {} (.cycle []) [] ['T']
    islands.searchOrder = [.english, .german, .french, .italian] ∧
      search.value = some [] ∧
      search.trail = [.lookup ['T'] .english [], .lookup ['T'] .german [],
        .roll ['T'] (.german, ['t']) none, .lookup ['T'] .french []] ∧
      ∀ k, (k, .italian) ∉ search.lookups := by
  intro search
  have reached : islands.Reached := .load (.load (.load (.new _ _ _) _ _) _ _) _ _
  have order : islands.searchOrder = [.english, .german] ++ .french :: [.italian] := by
    decide +kernel
  obtain ⟨-, -, -, found⟩ :=
    anyString_first reached (r := {}) (by decide) (.cycle []) [] ['T']
  obtain ⟨-, ended, unasked⟩ :=
    found [.english, .german] .french [.italian] order (by decide +kernel) (by decide +kernel)
  have value := congrArg Outcome.value ended
  have trail := congrArg Outcome.trail ended
  exact ⟨order, value.trans (by decide +kernel), trail.trans (by decide +kernel),
    unasked .italian List.mem_cons_self⟩

end Package

end Phrasebook
