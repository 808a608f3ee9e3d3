import Phrasebook.Proofs.Expansion.Steps
import Phrasebook.Proofs.Template.Grammar

/-!
# What an expansion does with its template

An expansion emits a text for every key of its template, from left to right, each from the run
that the one before it left behind, and weaves the texts between the leads (`fillHoles_eq_mapM`).
It looks at the template once: a text that was emitted is not read again, and what stands
behind an opening that is never closed is not looked at (`fillHoles_closed`). With the grammar
of templates this says what becomes of any text whatever (`expand_grammar`).
-/

namespace Phrasebook

namespace Template

/-- The keys of the holes, from left to right. -/
def keys : Template → List Text
  | ends _ | unclosed _ _ => []
  | hole _ key rest => key :: rest.keys

/-- The leads with a text for every key between them. -/
def weave : Template → List Text → Text
  | ends lead, _ | unclosed lead _, _ => lead
  | hole lead _ rest, texts => lead ++ texts.headD [] ++ rest.weave texts.tail

/-- The template up to an opening that is never closed. -/
def closed : Template → Template
  | ends lead | unclosed lead _ => ends lead
  | hole lead key rest => hole lead key rest.closed

theorem WellFormed.closed {t : Template} (h : t.WellFormed) : t.closed.WellFormed := by
  induction t with
  | ends lead => exact h
  | unclosed lead tail => exact h.1.inside
  | hole lead key rest ih => exact ⟨h.1, h.2.1, ih h.2.2⟩

end Template

namespace Scope

variable {ι lang : Type}

/-- Filling a template emits its keys one after the other and weaves what they emit between
its leads. -/
theorem fillHoles_eq_mapM (scope : Scope ι lang) (ask : Text → Step ι lang (Option Text))
    (t : Template) : scope.fillHoles ask t = t.weave <$> t.keys.mapM (scope.fill ask) := by
  induction t with
  | ends lead => rfl
  | unclosed lead tail => rfl
  | hole lead key rest ih =>
    rw [fillHoles, ih, Template.keys, List.mapM_cons]
    rfl

/-- A template that is nothing but a hole is filled like the hole. -/
theorem fillHoles_hole (scope : Scope ι lang) (ask : Text → Step ι lang (Option Text)) {raw : Text}
    (h : Template.Unpaired '}' raw) :
    scope.fillHoles ask (Template.read (Template.opening ++ raw ++ Template.closing)) =
      scope.fill ask raw := by
  rw [Template.read_hole h]
  simp only [fillHoles, pure_bind, List.nil_append, List.append_nil, bind_pure]

/-- What stands behind an opening that is never closed makes no difference. -/
theorem fillHoles_closed (scope : Scope ι lang) (ask : Text → Step ι lang (Option Text))
    (t : Template) : scope.fillHoles ask t.closed = scope.fillHoles ask t := by
  induction t with
  | ends lead => rfl
  | unclosed lead tail => rfl
  | hole lead key rest ih => rw [Template.closed, fillHoles, fillHoles, ih]

variable [DecidableEq ι]

/-- **What becomes of a text.** A text is written by exactly one well-formed template. Expanded
below any chain and from any run, it gives the leads of that template with what its keys emit
between them, one after the other on the same run, and leaves the run that the last of them
leaves. A tail adds nothing and does nothing: the text without it does the same. -/
theorem expand_grammar (scope : Scope ι lang) (chain : List Text) (s : Text) :
    (∃! t : Template, t.WellFormed ∧ t.source = s) ∧
      ∀ t : Template, t.WellFormed → t.source = s →
        let ask := scope.stored (scope.maxDepth - chain.length).toNat chain
        (∀ run : Run ι lang,
          let emitted := t.keys.mapM (scope.fill ask) run
          scope.fillHoles ask (Template.read s) run = (t.weave emitted.1, emitted.2)) ∧
        scope.fillHoles ask (Template.read t.closed.source) =
          scope.fillHoles ask (Template.read s) := by
  refine ⟨Template.existsUnique_wellFormed s, ?_⟩
  rintro t h rfl ask
  rw [Template.read_source h, Template.read_source h.closed]
  refine ⟨fun run => ?_, fillHoles_closed scope ask t⟩
  rw [fillHoles_eq_mapM]
  rfl

/-- A scope with one field, whose text looks like a hole. -/
def echoScope : Scope Empty Unit where
  store := none
  language := ()
  fields := [some ⟨['b'], .text "{{b}}".toList⟩]
  maxDepth := 32
  tracing := false

/-- Two holes and an opening that is never closed. The first key starts with a brace, and so
does the lead behind it. -/
def braced : Template :=
  .hole [] ['{', 'a'] (.hole ['}', ' '] ['b'] (.unclosed [] ['c', '}']))

/-- Braces in a row are taken from the left, and the text of the field is not read again. -/
theorem expand_braced : braced.WellFormed ∧
    (echoScope.fillHoles (echoScope.stored 32 []) (Template.read braced.source)
      { pools := fun place => (nomatch place), draws := .cycle [] }).1 = "{a} {{b}}".toList := by
  have wellFormed : braced.WellFormed :=
    ⟨.nil '{', ⟨by decide, by decide⟩, ⟨by decide, by decide⟩, ⟨by decide, by decide⟩,
      .nil '{', by decide⟩
  have expanded := ((expand_grammar echoScope [] braced.source).2 braced wellFormed rfl).1
    { pools := fun place => (nomatch place), draws := .cycle [] }
  exact ⟨wellFormed, (congrArg Prod.fst expanded).trans (by decide +kernel)⟩

end Scope

end Phrasebook
