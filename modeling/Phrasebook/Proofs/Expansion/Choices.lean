import Phrasebook.Proofs.Expansion.Call
import Phrasebook.Proofs.Expansion.Holes
import Phrasebook.Proofs.Template.Directives

/-!
# Choices among keys

A hole with a choice evaluates its condition. By the verdict it is then filled like a plain hole
with the chosen key, from the run that the evaluation left behind, or with nothing
(`choice_reduces`). What a chosen key looks like makes no difference any more: it may start with the
word of a choice, and have colons where it is the last part.

The other key is not asked for. From the end of the evaluation on, the store is asked for the chosen
key and for what its own text names, and every pool that is rolled was found by such a lookup
(`OnlyAsks`).
-/

namespace Phrasebook

variable {ι lang : Type}

/-- A name is asked for below some keys for the sake of a key at a chain: it is that key itself, or
the key is being expanded there. -/
def AskedFor (chain : List Text) (key name : Text) (below : List Text) : Prop :=
  name = key ∧ below = chain ∨ chain ++ [Text.lower key] <+: below

theorem AskedFor.below {chain below : List Text} {key name : Text}
    (h : AskedFor chain key name below) (inner : Text) :
    AskedFor chain key inner (below ++ [Text.lower name]) := by
  rcases h with ⟨rfl, rfl⟩ | expanding
  · exact .inr (List.prefix_refl _)
  · exact .inr (expanding.trans (List.prefix_append _ _))

/-- A stretch of a trail, the newest event first, with no lookups but those for the sake of a key at
a chain, and with rolls only right after such a lookup. -/
inductive OnlyAsks (chain : List Text) (key : Text) : List (Event ι lang) → Prop where
  | nil : OnlyAsks chain key []
  | note (n : Note) {more : List (Event ι lang)} (earlier : OnlyAsks chain key more) :
    OnlyAsks chain key (.note n :: more)
  | lookup {name : Text} {language : lang} {below : List Text} {more : List (Event ι lang)}
    (of : AskedFor chain key name below) (earlier : OnlyAsks chain key more) :
    OnlyAsks chain key (.lookup name language below :: more)
  | roll {name : Text} {language : lang} {below : List Text} {more : List (Event ι lang)}
    (of : AskedFor chain key name below) (place : ι) (picked : Option Text)
    (earlier : OnlyAsks chain key more) :
    OnlyAsks chain key (.roll name place picked :: .lookup name language below :: more)

theorem OnlyAsks.append {chain : List Text} {key : Text} {later earlier : List (Event ι lang)}
    (h : OnlyAsks chain key later) (before : OnlyAsks chain key earlier) :
    OnlyAsks chain key (later ++ earlier) := by
  induction h with
  | nil => exact before
  | note n _ ih => exact .note n ih
  | lookup of _ ih => exact .lookup of ih
  | roll of place picked _ ih => exact .roll of place picked ih

/-- Actions that ask for nothing but a key at a chain. -/
def Simulation.asking (ι lang : Type) (chain : List Text) (key : Text) :
    Simulation (Step ι lang) (Step ι lang) :=
  .ofKept (fun act => ∀ run, ∃ more,
      (act run).2.trail = more ++ run.trail ∧ OnlyAsks chain key more)
    (fun _ _ => ⟨[], rfl, .nil⟩) fun {_ _ x f} hx hf run => by
      obtain ⟨more, first, asks⟩ := hx run
      obtain ⟨later, second, asks'⟩ := hf (x run).1 (x run).2
      exact ⟨later ++ more, by rw [Step.bind_run, second, first, List.append_assoc],
        asks'.append asks⟩

namespace Scope

section Choosing

variable {scope : Scope ι lang} {ask : Text → Step ι lang (Option Text)}

/-- A plain key is read as itself. -/
theorem fill_key {key : Text} (isKey : Template.IsKey key) :
    scope.fill ask key = scope.fillKey ask key := by
  rw [fill, isKey.readDirective]

/-- A template that is one hole with a plain key is filled like the key. -/
theorem fillHoles_key {key : Text} (isKey : Template.IsKey key) :
    scope.fillHoles ask (Template.read (Template.opening ++ key ++ Template.closing)) =
      scope.fillKey ask key := by
  rw [fillHoles_hole scope ask isKey.unpaired, fill_key isKey]

/-- A choice evaluates its condition and goes on like a plain key or ends with nothing. -/
theorem fill_choice {raw condition whenTrue : Text} {whenFalse : Option Text}
    (h : Directive.read raw = .choose condition whenTrue whenFalse) (run : Run ι lang) :
    let judged := scope.evaluate ask condition run
    scope.fill ask raw run =
      (Directive.chosen whenTrue whenFalse judged.1).elim ([], judged.2) fun key =>
        scope.fillKey ask key judged.2 := by
  simp only [fill, h, Step.bind_run]
  match (scope.evaluate ask condition run).1, whenFalse with
  | some true, _ => rfl
  | some false, some _ => rfl
  | some false, none => rfl
  | none, _ => rfl

end Choosing

section Asking

theorem asking_say (chain : List Text) (key : Text) (tracing : Bool) (n : Note) :
    (Simulation.asking ι lang chain key).Keeps (Step.say tracing n) := by
  intro run
  rw [Step.say_run, Step.said]
  split
  · exact ⟨[], rfl, .nil⟩
  · exact ⟨[.note n], rfl, .note n .nil⟩

variable [DecidableEq ι]

theorem asking_primitives (scope : Scope ι lang) (chain : List Text) (key : Text) :
    (Simulation.asking ι lang chain key).Primitives scope scope
      fun below name => AskedFor chain key name below where
  fields := rfl
  maxDepth := rfl
  stores := rfl
  say n := asking_say chain key scope.tracing n
  memoized _ _ := ⟨[], rfl, .nil⟩
  memoize _ _ _ := ⟨[], rfl, .nil⟩
  fetch store hs store' hs' below name asked _ _ run := by
    obtain rfl : store = store' := Option.some.inj (hs.symm.trans hs')
    match found : store name scope.language with
    | none =>
      rw [Step.fetch_missing found]
      exact ⟨[.lookup name scope.language below], rfl, .lookup asked .nil⟩
    | some (.text raw) =>
      rw [Step.fetch_text found]
      exact ⟨[.lookup name scope.language below], rfl, .lookup asked .nil⟩
    | some (.pool place) =>
      rw [Step.fetch_pool found, Step.roll_run]
      exact ⟨[.roll name place _, .lookup name scope.language below], rfl,
        .roll asked place _ .nil⟩
  below _ _ name asked _ _ := asked.below name

/-- The expansion of a key asks for nothing but the key. Where the chain leaves no room, or has
outgrown the limit, the key is refused. -/
theorem asking_stored (scope : Scope ι lang) (chain : List Text) (key : Text) :
    (Simulation.asking ι lang chain key).Keeps
      (scope.stored (scope.maxDepth - chain.length).toNat chain key) := by
  by_cases within : chain.length ≤ scope.maxDepth.toNat
  · exact (asking_primitives scope chain key).stored _ chain (by omega) key (.inl ⟨rfl, rfl⟩)
  · have full : (scope.maxDepth - chain.length).toNat = 0 := by omega
    rw [full]
    intro run
    cases hs : scope.store with
    | none =>
      rw [stored_storeless hs]
      exact ⟨[], rfl, .nil⟩
    | some store =>
      by_cases cyclic : Text.lower key ∈ chain
      · rw [stored_cyclic hs cyclic]
        exact ⟨[.note _], rfl, .note _ .nil⟩
      · rw [stored_tooDeep hs cyclic]
        exact ⟨[.note _], rfl, .note _ .nil⟩

end Asking

variable [DecidableEq ι]

/-- **A choice is its condition and then a plain key.** A hole at any chain and in any run, whose
text is a head and parts behind colons, evaluates the second part. If the verdict is known and there
is a key for it, the rest is what a plain hole with that key does, from the run that the evaluation
left; if not, nothing more happens and nothing is emitted. Behind the bare word with fewer parts
nothing happens at all. A plain hole asks the store for its key and for what the text of the key
names, and for nothing else. -/
theorem choice_reduces (scope : Scope ι lang) (chain : List Text) :
    let ask := scope.stored (scope.maxDepth - chain.length).toNat chain
    let hole := fun raw : Text =>
      scope.fillHoles ask (Template.read (Template.opening ++ raw ++ Template.closing))
    (∀ head, Directive.IsHead head → '}' ∉ head →
      (∀ condition whenTrue whenFalse, ':' ∉ condition → ':' ∉ whenTrue →
        '}' ∉ condition → '}' ∉ whenTrue → '}' ∉ whenFalse → ∀ run,
        let judged := scope.evaluate ask condition run
        hole (head ++ ':' :: (condition ++ ':' :: (whenTrue ++ ':' :: whenFalse))) run =
          (Directive.chosen (Text.trim whenTrue) (some (Text.trim whenFalse)) judged.1).elim
            ([], judged.2) fun key => scope.fillKey ask key judged.2) ∧
      (∀ condition whenTrue, ':' ∉ condition → ':' ∉ whenTrue →
        '}' ∉ condition → '}' ∉ whenTrue → ∀ run,
        let judged := scope.evaluate ask condition run
        hole (head ++ ':' :: (condition ++ ':' :: whenTrue)) run =
          (Directive.chosen (Text.trim whenTrue) none judged.1).elim
            ([], judged.2) fun key => scope.fillKey ask key judged.2) ∧
      (Text.trim head = Directive.word → hole head = pure [] ∧
        ∀ condition, ':' ∉ condition → '}' ∉ condition →
          hole (head ++ ':' :: condition) = pure [])) ∧
    (∀ key, Template.IsKey key → hole key = scope.fillKey ask key) ∧
    ∀ key (run : Run ι lang), ∃ more,
      (scope.fillKey ask key run).2.trail = more ++ run.trail ∧ OnlyAsks chain key more := by
  intro ask hole
  have filled {raw : Text} (brace : '}' ∉ raw) : hole raw = scope.fill ask raw :=
    fillHoles_hole scope ask (.of_not_mem brace)
  have nothing {raw : Text} (read : Directive.read raw = .nothing) :
      scope.fill ask raw = pure [] := by
    rw [fill, read]
  refine ⟨fun head isHead brace => ⟨?_, ?_, fun bare => ⟨?_, ?_⟩⟩, ?_, ?_⟩
  · intro condition whenTrue whenFalse colon colon' brace₁ brace₂ brace₃ run
    rw [filled (by simp [brace, brace₁, brace₂, brace₃])]
    exact fill_choice (isHead.read_choice colon colon' whenFalse) run
  · intro condition whenTrue colon colon' brace₁ brace₂ run
    rw [filled (by simp [brace, brace₁, brace₂])]
    exact fill_choice (isHead.read_choice_short colon colon') run
  · rw [filled brace]
    exact nothing (Directive.read_word bare)
  · intro condition colon brace'
    rw [filled (by simp [brace, brace'])]
    exact nothing (isHead.read_condition bare colon)
  · exact fun key isKey => fillHoles_key isKey
  · intro key
    exact (Simulation.asking ι lang chain key).fillKey rfl (fun _ => ⟨[], rfl, .nil⟩)
      (fun _ _ => ⟨[], rfl, .nil⟩) (fun _ => asking_stored scope chain key)
      (asking_say chain key scope.tracing _)

/-- A store with a false text, and a text under a key that looks like a choice. -/
def forkScope : Scope Empty Unit where
  store := some fun key _ =>
    if key = ['c'] then some (.text ['0'])
    else if key = "if:x".toList then some (.text "{{y}}".toList)
    else none
  language := ()
  fields := []
  maxDepth := 2
  tracing := false

/-- The last part of the choice is a key with a colon that starts with the word. It is asked for as
it is, behind the condition, and the key before it is not. -/
theorem choice_reduces_colon :
    let ask := forkScope.stored 2 []
    let run : Run Empty Unit := { pools := fun place => (nomatch place), draws := .cycle [] }
    let judged := forkScope.evaluate ask ['c'] run
    let filled := forkScope.fillHoles ask (Template.read "{{ if :c: t : if:x }}".toList) run
    judged.1 = some false ∧ filled.1 = ['y'] ∧ filled.2.memo.lookup "if:x".toList = some ['y'] ∧
      ∃ more, filled.2.trail = more ++ judged.2.trail ∧ OnlyAsks [] "if:x".toList more ∧
        more.length = 2 := by
  intro ask run judged filled
  obtain ⟨choices, -, asks⟩ := choice_reduces forkScope []
  have isHead : Directive.IsHead " if ".toList := ⟨by decide, by decide⟩
  have reduced : filled = forkScope.fillKey ask "if:x".toList judged.2 :=
    (choices " if ".toList isHead (by decide)).1 ['c'] " t ".toList " if:x ".toList (by decide)
      (by decide) (by decide) (by decide) (by decide) run
  obtain ⟨more, trail, only⟩ : ∃ more, (forkScope.fillKey ask "if:x".toList judged.2).2.trail =
      more ++ judged.2.trail ∧ OnlyAsks [] "if:x".toList more := asks _ _
  rw [← reduced] at trail
  have longer : filled.2.trail.length = judged.2.trail.length + 2 := by decide +kernel
  rw [trail, List.length_append] at longer
  exact ⟨by decide +kernel, by decide +kernel, by decide +kernel, more, trail, only, by omega⟩

end Scope

end Phrasebook
