import Phrasebook.Package
import Phrasebook.Proofs.Expansion.Choices

/-!
# A key on its own and in a hole

The stored text of a key is expanded when the key is asked for, and when a template asks for it that
is nothing but a hole with the key. The two ways give the same text and do the same on the way
(`hole_agrees`). The hole looks into the memo and the fields first, which hold nothing for the key,
and then asks like the key; what it puts into the memo comes too late to be found.
-/

namespace Phrasebook

namespace Scope

variable {ι lang : Type} [DecidableEq ι]

/-- A template that is one hole is filled with its key. -/
theorem expand_hole (scope : Scope ι lang) {key : Text} (isKey : Template.IsKey key) :
    scope.expand (Template.opening ++ key ++ Template.closing) = scope.fillKey scope.ask key := by
  rw [expand, fillHoles_key isKey]

end Scope

namespace Resolver

variable {σ ι lang α : Type}

/-- The run that a call on a shelf starts from. -/
def start (kind : Shelf σ ι lang) (shelf : Option σ) (draws : Draws) : Run ι lang where
  pools := match shelf with
    | some s => kind.pools s
    | none => fun _ => {}
  draws := draws

/-- The outcome of an action is read off the run that it ends with. -/
theorem perform_of_run {kind : Shelf σ ι lang} {shelf : Option σ} {draws : Draws}
    {act : Step ι lang α} {value : α} {after : Run ι lang}
    (h : act (start kind shelf draws) = (value, after)) :
    perform kind shelf draws act = {
      value, draws := after.draws, trail := after.trail.reverse
      shelf := shelf.map fun s => kind.restock s after.pools } := by
  have read : perform kind shelf draws act = {
      value := (act (start kind shelf draws)).1, draws := (act (start kind shelf draws)).2.draws
      trail := (act (start kind shelf draws)).2.trail.reverse
      shelf := shelf.map fun s => kind.restock s (act (start kind shelf draws)).2.pools } := rfl
  rw [read, h]

variable [DecidableEq ι]

/-- The outcome of a hole is that of its key. A key without a text stands for itself, and only then
does the hole leave more on the trail, which is a trace. -/
theorem expand_hole (r : Resolver) (kind : Shelf σ ι lang) (shelf : Option σ) (draws : Draws)
    (language : lang) {fields : List (Option Field)} {key : Text} (isKey : Template.IsKey key)
    (free : Field.find? key fields = none) :
    let direct := r.expandKey kind shelf draws language fields key
    r.expand kind shelf draws language fields (Template.opening ++ key ++ Template.closing) = {
      value := direct.value.getD key, shelf := direct.shelf, draws := direct.draws
      trail := direct.trail ++
        if r.tracing = true ∧ direct.value = none then [.note (.unresolved key)] else [] } := by
  intro direct
  let scope := r.scope kind shelf language fields
  have free' : Field.find? key scope.fields = none := free
  have through : r.expand kind shelf draws language fields
      (Template.opening ++ key ++ Template.closing) =
        perform kind shelf draws (scope.fillKey scope.ask key) := by
    rw [Resolver.expand, Scope.expand_hole _ isKey]
  cases asked : scope.ask key (start kind shelf draws) with
  | mk value after =>
    have left : direct = _ := perform_of_run asked
    rw [through, left]
    -- both ask once from the same run, and what the hole puts into the memo is in no outcome
    cases value with
    | some value =>
      rw [perform_of_run (Scope.fillKey_stored rfl free' asked)]
      simp
    | none =>
      rw [perform_of_run (Scope.fillKey_missing rfl free' asked)]
      cases tracing : r.tracing <;> simp [Step.said, Note.isTrace, scope, Resolver.scope, tracing]

end Resolver

namespace Package

/-- A key that no field has, expanded on its own and in a hole, whatever the store is: the same text
or, where the key has none, the key itself; the same lookups, rolls and warnings in the same order,
and the same pools and draws afterwards. While tracing, a hole leaves one trace more if its key has
no text. So the finished string of a key of a package is the expanded hole with its colours. -/
theorem hole_agrees {key : Text} (isKey : Template.IsKey key) {fields : List (Option Field)}
    (free : ∀ f, some f ∈ fields → f.key ≠ key) (r : Resolver) :
    (∀ {σ ι lang : Type} [DecidableEq ι] (kind : Shelf σ ι lang) (shelf : Option σ)
        (draws : Draws) (language : lang),
      let direct := r.expandKey kind shelf draws language fields key
      let hole := r.expand kind shelf draws language fields
        (Template.opening ++ key ++ Template.closing)
      hole.value = direct.value.getD key ∧ hole.shelf = direct.shelf ∧ hole.draws = direct.draws ∧
        hole.trail = direct.trail ++
          if r.tracing = true ∧ direct.value = none then [.note (.unresolved key)] else []) ∧
    ∀ (p : Package) (draws : Draws) (language : Language) (finished : Text),
      (p.string r draws language fields key).value = some finished →
        finished = Color.translate Color.alternateSign
          (p.processString r draws language fields
            (Template.opening ++ key ++ Template.closing)).value := by
  have unbound : Field.find? key fields = none := Field.find?_eq_none_iff.2 free
  constructor
  · intro σ ι lang _ kind shelf draws language
    dsimp only
    rw [r.expand_hole kind shelf draws language isKey unbound]
    exact ⟨rfl, rfl, rfl, rfl⟩
  · intro p draws language finished found
    obtain ⟨text, direct, rfl⟩ := Option.map_eq_some_iff.1 found
    rw [processString, r.expand_hole shelf (some p) draws language isKey unbound, direct]
    rfl

/-- A folder with the file of a package in which the candidate of a pool names the key of the pool
in another case. -/
def echoTree : Tree := .folder [("p_en.yml".toList, .file (.document (.ofValue (.dict [
  (.ofText ['t'], .dict [(.ofText "pool".toList, .list [.ofText "&A{{T}}".toList])])]))))]

/-- The package of that folder. -/
def echoes : Package := ((new ['.'] ['p'] none).load echoTree []).value

/-- Either way the pool is rolled once, and the key in its candidate is refused. -/
theorem hole_agrees_cyclic :
    let hole := echoes.processString {} (.cycle []) .english [] "{{t}}".toList
    (echoes.string {} (.cycle []) .english [] ['t']).value = some "§aT".toList ∧
      "§aT".toList = Color.translate Color.alternateSign hole.value ∧
      hole.trail = [.lookup ['t'] .english [],
        .roll ['t'] (.english, ['t']) (some "&A{{T}}".toList), .note (.cyclic ['T'] [['t']])] := by
  intro hole
  have isKey : Template.IsKey ['t'] := ⟨by decide, ⟨by decide, by decide⟩, by decide⟩
  have free : ∀ f, some f ∈ ([] : List (Option Field)) → f.key ≠ ['t'] := nofun
  obtain ⟨agree, finished⟩ := hole_agrees isKey free {}
  have direct : (echoes.string {} (.cycle []) .english [] ['t']).value = some "§aT".toList := by
    decide +kernel
  obtain ⟨-, -, -, trail⟩ := agree shelf (some echoes) (.cycle []) .english
  exact ⟨direct, finished echoes (.cycle []) .english _ direct, trail.trans (by decide +kernel)⟩

end Package

end Phrasebook
