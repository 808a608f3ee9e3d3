import Phrasebook.Proofs.Expansion.Bindings
import Phrasebook.Proofs.Expansion.Ventures
import Phrasebook.Proofs.Package.Agreement

/-!
# Rendering

A template engine makes a field of every variable and expands its template with them. Either can
fail, over a variable of a kind that no field can hold or over the digits of an integer, and then
the template comes back as it is, with one record of the fault (`Resolver.rescue`). All fields are
made before the expansion begins, so a variable of a wrong kind leaves the shelf untouched, wherever
it stands. Nothing else fails: with values that can be written, rendering is the expansion
(`Resolver.render_rescued`). So it is for `Resolver.render`, which writes an integer of any length.
-/

namespace Phrasebook

/-- Why a rendering failed. -/
inductive RenderFault where
  /-- A variable of a kind that no field can hold. -/
  | kind (u : UnsupportedKind)
  /-- A field that could not be written or judged. -/
  | scalar (f : ScalarFault)
  deriving DecidableEq, Repr

/-- The wording of the fault. -/
def RenderFault.message : RenderFault → Text
  | .kind u => u.message
  | .scalar f => f.message

/-- The record of a rendering that failed. -/
def RenderFault.record (f : RenderFault) (logger : Text) : Log.Record :=
  { logger, level := Log.error, message := "template rendering failed: ".toList ++ f.message }

variable {σ ι lang : Type}

/-- What a rendering leaves behind, and the fault that it was rescued from. -/
structure Rendering (σ ι lang : Type) where
  outcome : Outcome σ ι lang Text
  fault : Option RenderFault := none

/-- The records of a rendering: what the resolver said, then the fault. -/
def Rendering.records (x : Rendering σ ι lang) (resolver templates : Text) : List Log.Record :=
  x.outcome.records resolver ++ (x.fault.map fun f => f.record templates).toList

/-- The records of a rendering at the level of errors. -/
def Rendering.errors (x : Rendering σ ι lang) (resolver templates : Text) : List Log.Record :=
  (x.records resolver templates).filter fun record => record.level == Log.error

/-- Only a fault is an error; what the resolver says is a trace or a warning. -/
theorem Rendering.errors_eq (x : Rendering σ ι lang) (resolver templates : Text) :
    x.errors resolver templates = (x.fault.map fun f => f.record templates).toList := by
  have said : ∀ record ∈ x.outcome.records resolver, ¬ (record.level == Log.error) = true := by
    intro record happened
    obtain ⟨e, -, told⟩ := List.mem_filterMap.1 happened
    obtain ⟨n, -, rfl⟩ := Option.map_eq_some_iff.1 told
    cases n <;> exact Bool.false_ne_true
  rw [errors, records, List.filter_append, List.filter_eq_nil_iff.2 said, List.nil_append]
  cases x.fault with
  | none => rfl
  | some f => rfl

/-- The first step that fails gives the fault of the whole. -/
theorem mapM_eq_error {ε α β : Type} {f : α → Except ε β} {g : α → β} {before : List α} {x : α}
    {e : ε} (h : ∀ y ∈ before, f y = .ok (g y)) (fails : f x = .error e) (after : List α) :
    (before ++ x :: after).mapM f = .error e := by
  induction before with
  | nil =>
    rw [List.nil_append, List.mapM_cons, fails]
    rfl
  | cons y before ih =>
    obtain ⟨first, others⟩ := List.forall_mem_cons.1 h
    rw [List.cons_append, List.mapM_cons, first, ih others]
    rfl

namespace Field

variable {b : Text × Value} {bindings : List (Text × Value)}

theorem make_ofVariable (h : ∃ s, b.2 = .scalar s) : make b.1 b.2 = .ok (ofVariable b) := by
  obtain ⟨s, value⟩ := h
  rw [ofVariable, value]
  rfl

theorem make_unsupported (h : ∀ s, b.2 ≠ .scalar s) : make b.1 b.2 = .error ⟨b.2.kind⟩ := by
  obtain ⟨key, v⟩ := b
  cases v with
  | scalar s => exact absurd rfl (h s)
  | _ => rfl

/-- Some variable is the first of a kind that no field can hold. -/
theorem first_unsupported (h : ∃ b ∈ bindings, ∀ s, b.2 ≠ .scalar s) :
    ∃ before b after, bindings = before ++ b :: after ∧ (∀ v ∈ before, ∃ s, v.2 = .scalar s) ∧
      ∀ s, b.2 ≠ .scalar s := by
  induction bindings with
  | nil => simp at h
  | cons b rest ih =>
    by_cases supported : ∃ s, b.2 = .scalar s
    · have later : ∃ b ∈ rest, ∀ s, b.2 ≠ .scalar s := by
        obtain ⟨v, hv, wrong⟩ := h
        rcases List.mem_cons.1 hv with rfl | hv
        · exact absurd supported (not_exists.2 wrong)
        · exact ⟨v, hv, wrong⟩
      obtain ⟨before, v, after, rfl, all, wrong⟩ := ih later
      exact ⟨b :: before, v, after, rfl, List.forall_mem_cons.2 ⟨supported, all⟩, wrong⟩
    · exact ⟨[], b, rest, rfl, List.forall_mem_nil _, not_exists.1 supported⟩

/-- A field that is made of a variable has no more digits than the variable. -/
theorem exists_tooLong (long : SomeTooLong ((bindings.map ofVariable).map some)) :
    ∃ b ∈ bindings, b.2.isTooLong = true := by
  obtain ⟨f, hf, digits⟩ := long
  obtain ⟨_, hf, ⟨⟩⟩ := List.mem_map.1 hf
  obtain ⟨b, hb, rfl⟩ := List.mem_map.1 hf
  refine ⟨b, hb, ?_⟩
  obtain ⟨key, v⟩ := b
  cases v with
  | scalar s => exact digits
  | _ => cases digits

end Field

namespace Resolver

/-- Whatever the fault is, the template comes back as it is. -/
def rescue (template : Text) (o : Outcome σ ι lang (Except RenderFault Text)) :
    Rendering σ ι lang :=
  match o.value with
  | .ok text => { outcome := { o with value := text } }
  | .error f => { outcome := { o with value := template }, fault := some f }

/-- There was no fault and there is no error, or the fault is the only error. -/
theorem rescue_cases (template : Text) (o : Outcome σ ι lang (Except RenderFault Text)) :
    let x := rescue template o
    (x.fault = none ∧ ∀ resolver templates, x.errors resolver templates = []) ∨
      ∃ f, x.fault = some f ∧ x.outcome.value = template ∧
        ∀ resolver templates, x.errors resolver templates = [f.record templates] := by
  intro x
  have errors := x.errors_eq
  cases value : o.value with
  | ok text =>
    have rescued : x = { outcome := { o with value := text } } := by simp only [x, rescue, value]
    rw [rescued] at errors ⊢
    exact .inl ⟨rfl, errors⟩
  | error f =>
    have rescued : x = { outcome := { o with value := template }, fault := some f } := by
      simp only [x, rescue, value]
    rw [rescued] at errors ⊢
    exact .inr ⟨f, rfl, rfl, errors⟩

variable [DecidableEq ι] (r : Resolver) (kind : Shelf σ ι lang) (shelf : Option σ) (draws : Draws)
variable (language : lang) (bindings : List (Text × Value)) (template : Text)

/-- Expand a template, up to the first fault. -/
def tryExpand (fields : List (Option Field)) : Outcome σ ι lang (Except ScalarFault Text) :=
  perform kind shelf draws ((r.scope kind shelf language fields).ventureExpand template).run

/-- The expansion is tried to its end, or given up over the digits of a field. -/
theorem tryExpand_cases (fields : List (Option Field)) :
    let tried := r.tryExpand kind shelf draws language template fields
    let done := r.expand kind shelf draws language fields template
    tried = { done with value := .ok done.value } ∨
      (tried.value = .error .tooLong ∧ Field.SomeTooLong fields) := by
  intro tried done
  let scope := r.scope kind shelf language fields
  rcases scope.ventureExpand_run template (start kind shelf draws) with through | ⟨fault, long⟩
  · exact .inl (perform_of_run through)
  · exact .inr ⟨fault, long⟩

/-- Make the fields and expand the template, up to the first fault. -/
def tryRender : Outcome σ ι lang (Except RenderFault Text) :=
  match bindings.mapM fun v => Field.make v.1 v.2 with
  | .error u => { value := .error (.kind u), shelf, draws, trail := [] }
  | .ok fields =>
    let o := r.tryExpand kind shelf draws language template (fields.map some)
    { o with value := o.value.mapError .scalar }

/-- Render a template. -/
def rendering : Rendering σ ι lang :=
  rescue template (r.tryRender kind shelf draws language bindings template)

section Rescued

variable {r kind shelf draws language bindings template}

/-- A variable of a wrong kind is met before the expansion begins. -/
theorem rendering_unsupported {before after : List (Text × Value)} {b : Text × Value}
    (split : bindings = before ++ b :: after) (supported : ∀ v ∈ before, ∃ s, v.2 = .scalar s)
    (wrong : ∀ s, b.2 ≠ .scalar s) :
    r.rendering kind shelf draws language bindings template =
        { outcome := { value := template, shelf, draws, trail := [] }
          fault := some (.kind ⟨b.2.kind⟩) } ∧
      r.render kind shelf draws language bindings template =
        ({ value := template, shelf, draws, trail := [] }, some ⟨b.2.kind⟩) := by
  have fails : bindings.mapM (fun v => Field.make v.1 v.2) = .error ⟨b.2.kind⟩ := by
    rw [split]
    exact mapM_eq_error (fun v hv => Field.make_ofVariable (supported v hv))
      (Field.make_unsupported wrong) after
  constructor
  · simp only [rendering, tryRender, fails, rescue]
  · simp only [render, fails]

section Supported

variable (supported : ∀ b ∈ bindings, ∃ s, b.2 = .scalar s)
include supported

theorem fields_supported :
    bindings.mapM (fun b => Field.make b.1 b.2) = .ok (bindings.map Field.ofVariable) :=
  mapM_eq_ok fun b hb => Field.make_ofVariable (supported b hb)

theorem render_supported :
    let fields := (bindings.map Field.ofVariable).map some
    r.render kind shelf draws language bindings template =
      (r.expand kind shelf draws language fields template, none) := by
  simp only [render, fields_supported supported]

/-- With fields for all variables, the rendering is the expansion, or it was rescued from the digits
of one of them. -/
theorem rendering_supported :
    let rendering := r.rendering kind shelf draws language bindings template
    let fields := (bindings.map Field.ofVariable).map some
    rendering = { outcome := r.expand kind shelf draws language fields template } ∨
      (rendering.fault = some (.scalar .tooLong) ∧ ∃ b ∈ bindings, b.2.isTooLong = true) := by
  intro rendering fields
  simp only [rendering, Resolver.rendering, tryRender, fields_supported supported]
  rcases r.tryExpand_cases kind shelf draws language template fields with through | ⟨fault, long⟩
  · exact .inl (by rw [through]; rfl)
  · exact .inr ⟨by rw [fault]; rfl, Field.exists_tooLong long⟩

end Supported

end Rescued

/-- **Rendering never fails.** Whatever the variables are, a rendering has a text. If the fields
could not be made or the expansion was given up, that is the template itself, and there is exactly
one record at the level of errors; otherwise there is none. If fields can hold all variables, the
rendering is the expansion with one field for each of them, unless one is an integer with too many
digits to be written; infinities and what is not a number do no harm. If there is a variable of
another kind, wherever it stands and whatever the template is, then no key is looked up and no pool
rolled, and the only record names the first such kind. -/
theorem render_rescued :
    let rendering := r.rendering kind shelf draws language bindings template
    let rendered := r.render kind shelf draws language bindings template
    let expanded := r.expand kind shelf draws language ((bindings.map Field.ofVariable).map some)
      template
    let untouched : Outcome σ ι lang Text := { value := template, shelf, draws, trail := [] }
    ((rendering.fault = none ∧ ∀ resolver templates, rendering.errors resolver templates = []) ∨
      ∃ f, rendering.fault = some f ∧ rendering.outcome.value = template ∧
        ∀ resolver templates, rendering.errors resolver templates = [f.record templates]) ∧
    ((∀ b ∈ bindings, ∃ s, b.2 = .scalar s) → rendering = { outcome := expanded } ∨
      (rendering.fault = some (.scalar .tooLong) ∧ ∃ b ∈ bindings, b.2.isTooLong = true)) ∧
    ((∀ b ∈ bindings, (∃ s, b.2 = .scalar s) ∧ b.2.isTooLong = false) →
      rendering = { outcome := expanded } ∧ rendered = (expanded, none)) ∧
    ((∃ b ∈ bindings, ∀ s, b.2 ≠ .scalar s) →
      ∃ before b after, bindings = before ++ b :: after ∧
        (∀ v ∈ before, ∃ s, v.2 = .scalar s) ∧ (∀ s, b.2 ≠ .scalar s) ∧
        rendering = { outcome := untouched, fault := some (.kind ⟨b.2.kind⟩) } ∧
        rendered = (untouched, some ⟨b.2.kind⟩) ∧
        ∀ resolver templates, rendering.records resolver templates =
          [UnsupportedKind.record ⟨b.2.kind⟩ templates]) := by
  intro rendering rendered expanded untouched
  refine ⟨rescue_cases template _, fun supported => rendering_supported supported,
    fun writable => ?_, fun wrong => ?_⟩
  · have supported : ∀ b ∈ bindings, ∃ s, b.2 = .scalar s := fun b hb => (writable b hb).1
    refine ⟨?_, render_supported supported⟩
    have done : rendering = { outcome := expanded } ∨ _ := rendering_supported supported
    rcases done with through | ⟨-, b, hb, long⟩
    · exact through
    · rw [(writable b hb).2] at long
      cases long
  · obtain ⟨before, b, after, split, supported, wrong⟩ := Field.first_unsupported wrong
    obtain ⟨rescued, same⟩ : rendering = _ ∧ rendered = _ :=
      rendering_unsupported split supported wrong
    refine ⟨before, b, after, split, supported, wrong, rescued, same, fun resolver templates => ?_⟩
    exact congrArg (fun x : Rendering σ ι lang => x.records resolver templates) rescued

/-- A pool and a text that asks for it if a variable holds. -/
def cupEntries : Entries := .ofList
  [(['p'], .pool (.ofList .sequential [['u'], ['v']] none)), (['c'], .text "{{if:x:p:x}}".toList)]

/-- Variables without an integer part and without a wording for absence. -/
def oddVariables : List (Text × Value) :=
  [(['x'], .scalar (.float .nan)), (['y'], .scalar .null)]

/-- An integer with one digit too many. -/
def longVariables : List (Text × Value) := [(['n'], .scalar (.int (Nat.pow 10 Number.maxDigits)))]

/-- What is not a number is false and is written. A list behind it leaves the pool alone. The digits
of an integer turn up after the pool has moved. -/
theorem render_rescued_cups :
    let render (bindings : List (Text × Value)) (template : String) :=
      ({} : Resolver).rendering Entries.shelf (some cupEntries) (.cycle []) () bindings
        template.toList
    (render oddVariables "{{c}}{{y}}").outcome.value = "nan".toList ∧
      (render (oddVariables ++ [(['l'], .list [])]) "{{p}}").records [] [] =
        [UnsupportedKind.record ⟨"list".toList⟩ []] ∧
      (render longVariables "{{p}}{{n}}").fault = some (.scalar .tooLong) ∧
      ((render longVariables "{{p}}{{n}}").outcome.shelf.map fun es => (es.pools ['p']).cursor) =
        some 1 := by
  intro render
  have rescued (bindings : List (Text × Value)) (template : String) : _ ∧ _ :=
    ({} : Resolver).render_rescued Entries.shelf (some cupEntries) (.cycle []) () bindings
      template.toList
  refine ⟨?_, ?_, ?_, by decide +kernel⟩
  · obtain ⟨-, -, written, -⟩ := rescued oddVariables "{{c}}{{y}}"
    have scalars : ∀ b ∈ oddVariables, (∃ s, b.2 = .scalar s) ∧ b.2.isTooLong = false :=
      List.forall_mem_cons.2 ⟨⟨⟨_, rfl⟩, rfl⟩, List.forall_mem_singleton.2 ⟨⟨_, rfl⟩, rfl⟩⟩
    have drawn : render oddVariables "{{c}}{{y}}" = _ := (written scalars).1
    rw [drawn]
    decide +kernel
  · obtain ⟨-, -, -, wrong⟩ := rescued (oddVariables ++ [(['l'], .list [])]) "{{p}}"
    obtain ⟨before, b, after, split, -, unsupported, -, -, records⟩ :=
      wrong ⟨_, List.mem_append_right _ List.mem_cons_self, nofun⟩
    have listed : b ∈ oddVariables ++ [(['l'], .list [])] := split ▸ by simp
    simp only [oddVariables, List.cons_append, List.nil_append, List.mem_cons, List.not_mem_nil,
      or_false] at listed
    rcases listed with rfl | rfl | rfl
    · exact absurd rfl (unsupported _)
    · exact absurd rfl (unsupported _)
    · exact records [] []
  · obtain ⟨-, long, -⟩ := rescued longVariables "{{p}}{{n}}"
    rcases long (List.forall_mem_singleton.2 ⟨_, rfl⟩) with through | ⟨fault, -⟩
    · have given : (render longVariables "{{p}}{{n}}").fault ≠ none := by decide +kernel
      exact absurd (congrArg Rendering.fault through) given
    · exact fault

end Resolver

end Phrasebook
