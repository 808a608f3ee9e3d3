import Phrasebook.Command.Session
import Phrasebook.Proofs.Command.Jobs
import Phrasebook.Proofs.Text.Cuts
import Phrasebook.Proofs.Text.Delimiting

/-!
# Segments on lines

A run that is asked for segments writes each as one object on a line of its own. The object of a
segment is put together from fixed texts, written texts and the word for a kind of action, all of
which show where they end; where there is no action the object is closed where the action would
start. So objects are told apart, also from one with more behind it, and as nothing below the space
is written in an object, the line breaks are exactly the ends of the lines. What is written
determines the segments (`segmentLines_lossless`).
-/

namespace Phrasebook

namespace Json

/-- A key of an object, up to its value. -/
def memberKey (key : Text) : Text := writeText key ++ [':', ' ']

theorem write_one (key t : Text) :
    (object [(key, text t)]).write = '\x7b' :: memberKey key ++ (writeText t ++ ['\x7d']) := by
  simp [write, writeMembers, Text.joinWith, memberKey]

theorem write_two (key key' t : Text) (j : Json) :
    (object [(key, text t), (key', j)]).write =
      '\x7b' :: memberKey key ++
        (writeText t ++ (comma ++ memberKey key' ++ j.write ++ ['\x7d'])) := by
  simp [write, writeMembers, Text.joinWith, memberKey]

theorem shows_memberKey (key : Text) : Shows (memberKey key) :=
  (shows_writeText key).append (.of_all rfl)

theorem shows_one (key t : Text) : Shows (object [(key, text t)]).write := by
  have start : Shows ['\x7b'] := .of_all rfl
  have stop : Shows ['\x7d'] := .of_all rfl
  rw [write_one]
  exact (start.append (shows_memberKey key)).append ((shows_writeText t).append stop)

theorem shows_two (key key' t : Text) {j : Json} (h : Shows j.write) :
    Shows (object [(key, text t), (key', j)]).write := by
  have start : Shows ['\x7b'] := .of_all rfl
  have stop : Shows ['\x7d'] := .of_all rfl
  have next : Shows (comma ++ memberKey key') := Shows.append (.of_all rfl) (shows_memberKey key')
  rw [write_two]
  exact (start.append (shows_memberKey key)).append
    ((shows_writeText t).append ((next.append h).append stop))

end Json

namespace Action

/-- An action in the interchange notation. -/
def toJson (a : Action) : Json :=
  .object [("kind".toList, .text a.kind.word), ("payload".toList, .text a.payload)]

theorem selfDelimiting_toJson : SelfDelimiting fun a : Action => a.toJson.write := by
  have words : ∀ k l : ActionKind, k.word = l.word → k = l := by
    intro k l
    cases k <;> cases l <;> decide
  have kinds : SelfDelimiting fun k : ActionKind => Json.writeText k.word :=
    Json.selfDelimiting_writeText.comp words
  have payloads := (Json.selfDelimiting_writeText.behind
    (Json.comma ++ Json.memberKey "payload".toList)).before ['\x7d']
  have members := ((kinds.pair payloads).behind ('\x7b' :: Json.memberKey "kind".toList)).comp
    (f := fun a : Action => (a.kind, a.payload)) (by
      rintro ⟨k, t⟩ ⟨l, u⟩ same
      obtain ⟨rfl, rfl⟩ := Prod.mk.inj same
      rfl)
  intro a b s t same
  simp only [toJson, Json.write_two] at same
  exact members same

end Action

namespace Segment

/-- What an object has behind its text: its end, or an action. -/
def tail : Option Action → Text
  | none => ['\x7d']
  | some a => Json.comma ++ Json.memberKey "action".toList ++ a.toJson.write ++ ['\x7d']

theorem selfDelimiting_tail : SelfDelimiting tail := by
  have actions := (Action.selfDelimiting_toJson.behind
    (Json.comma ++ Json.memberKey "action".toList)).before ['\x7d']
  intro a b s t same
  cases a with
  | none =>
    cases b with
    | none => exact ⟨rfl, (List.cons.inj same).2⟩
    | some b => cases (List.cons.inj same).1
  | some a =>
    cases b with
    | none => cases (List.cons.inj same).1
    | some b =>
      obtain ⟨rfl, rest⟩ := actions same
      exact ⟨rfl, rest⟩

theorem write_toJson (s : Segment) :
    s.toJson.write =
      '\x7b' :: Json.memberKey "text".toList ++ (Json.writeText s.text ++ tail s.action) := by
  obtain ⟨text, action⟩ := s
  cases action with
  | none => exact Json.write_one "text".toList text
  | some a => exact Json.write_two "text".toList "action".toList text a.toJson

/-- The object of a segment can be told from what stands behind it. -/
theorem selfDelimiting_toJson : SelfDelimiting fun s : Segment => s.toJson.write := by
  have parts := ((Json.selfDelimiting_writeText.pair selfDelimiting_tail).behind
    ('\x7b' :: Json.memberKey "text".toList)).comp (f := fun s : Segment => (s.text, s.action)) (by
      rintro ⟨t, a⟩ ⟨u, b⟩ same
      obtain ⟨rfl, rfl⟩ := Prod.mk.inj same
      rfl)
  intro s u v w same
  simp only [write_toJson] at same
  exact parts same

theorem shows_toJson (s : Segment) : Json.Shows s.toJson.write := by
  obtain ⟨text, action⟩ := s
  cases action with
  | none => exact Json.shows_one "text".toList text
  | some a =>
    have inner : Json.Shows a.toJson.write := Json.shows_two _ _ _ (Json.shows_writeText a.payload)
    exact Json.shows_two "text".toList "action".toList text inner

end Segment

namespace Command

/-- Two lists of segments that are written alike are the same list. -/
theorem segmentLines_injective {ss ss' : List Segment}
    (h : segmentLines ss = segmentLines ss') : ss = ss' := by
  have lines := Segment.selfDelimiting_toJson.before ['\n']
  exact lines.flatMap_injective (fun s => by simp) h

/-- The lines are the objects; behind the last there is nothing. -/
theorem splitOn_segmentLines (ss : List Segment) :
    Text.splitOn '\n' (segmentLines ss) = ss.map (fun s => s.toJson.write) ++ [[]] := by
  induction ss with
  | nil => rfl
  | cons s ss ih =>
    have unbroken : '\n' ∉ s.toJson.write := s.shows_toJson.newLine_not_mem
    calc Text.splitOn '\n' (segmentLines (s :: ss))
        = Text.splitOn '\n' (s.toJson.write ++ '\n' :: segmentLines ss) := by
          simp [segmentLines]
      _ = s.toJson.write :: Text.splitOn '\n' (segmentLines ss) := Text.splitOn_append unbroken _
      _ = (s :: ss).map (fun s => s.toJson.write) ++ [[]] := by rw [ih]; rfl

theorem count_segmentLines (ss : List Segment) : (segmentLines ss).count '\n' = ss.length := by
  have pieces := Text.length_splitOn '\n' (segmentLines ss)
  rw [splitOn_segmentLines, List.length_append, List.length_map, List.length_singleton] at pieces
  omega

/-- What succeeds as a whole succeeds in its first step. -/
theorem exists_of_bind_eq_ok {ε α β : Type} {first : Except ε α} {next : α → Except ε β} {b : β}
    (h : first >>= next = .ok b) : ∃ a, first = .ok a ∧ next a = .ok b := by
  cases first with
  | error e => cases h
  | ok a => exact ⟨a, rfl, h⟩

section Runs

variable {tree : Tree} {r : Resolver} {draws : Draws} {t : Text}

namespace Job

variable {j : Job}

/-- The segments that a job finds in the finished line of its subject, if it gets that far. -/
def found (tree : Tree) (r : Resolver) (draws : Draws) (j : Job) : Option (List Segment) :=
  match (j.package tree).result with
  | .error _ => none
  | .ok p => (j.line r p draws).value.bind fun line => (segmentsOf line j.subject).toOption

theorem write_eq_ok_iff (asked : j.segments = true) {line? : Option Text} :
    j.write line? = .ok t ↔
      ∃ ss, (line?.bind fun line => (segmentsOf line j.subject).toOption) = some ss ∧
        segmentLines ss = t := by
  cases line? with
  | none =>
    constructor
    · intro h
      cases h
    · rintro ⟨_, ⟨⟩, -⟩
  | some line =>
    simp only [write, asked, if_true, Option.bind_some]
    cases segmentsOf line j.subject with
    | error f =>
      constructor
      · intro h
        cases h
      · rintro ⟨_, ⟨⟩, -⟩
    | ok ss =>
      constructor
      · intro h
        exact ⟨ss, rfl, Except.ok.inj h⟩
      · rintro ⟨_, ⟨⟩, rfl⟩
        rfl

theorem perform_segments (asked : j.segments = true) :
    (j.perform tree r draws).result = .ok t ↔
      ∃ ss, j.found tree r draws = some ss ∧ segmentLines ss = t := by
  unfold found
  cases loaded : (j.package tree).result with
  | error f =>
    rw [perform_unloaded loaded]
    exact ⟨nofun, nofun⟩
  | ok p =>
    dsimp only
    rw [← write_eq_ok_iff asked]
    cases outcome : j.write (j.line r p draws).value with
    | ok text => simp only [perform_written loaded outcome, Except.ok.injEq]
    | error reason =>
      rw [perform_refused loaded outcome]
      exact ⟨nofun, nofun⟩

end Job

namespace Settings

variable {s : Settings}

/-- The segments that settings ask for, if they are found. -/
def found (tree : Tree) (r : Resolver) (draws : Draws) (s : Settings) : Option (List Segment) :=
  match s.job with
  | .error _ => none
  | .ok j => j.found tree r draws

theorem job_segments {j : Job} (h : s.job = .ok j) : j.segments = s.segments := by
  obtain ⟨subject, -, h⟩ := exists_of_bind_eq_ok h
  obtain ⟨language, -, h⟩ := exists_of_bind_eq_ok h
  obtain ⟨fallback, -, h⟩ := exists_of_bind_eq_ok h
  obtain ⟨fields, -, h⟩ := exists_of_bind_eq_ok h
  rw [← Except.ok.inj h]

theorem perform_segments (asked : s.segments = true) :
    (s.perform tree r draws).result = .ok t ↔
      ∃ ss, s.found tree r draws = some ss ∧ segmentLines ss = t := by
  unfold perform found
  cases made : s.job with
  | error reason => exact ⟨nofun, nofun⟩
  | ok j => exact Job.perform_segments ((job_segments made).trans asked)

end Settings

end Runs

/-- **Segments on lines are lossless.** A run that is asked for segments gives a text exactly if it
finds segments, and the text is their lines. Whatever the segments are, there is one line break for
each, at the end of its object, and nothing behind the last; and the text determines the segments,
so one without an action is not taken for one with an action. -/
theorem segmentLines_lossless :
    (∀ (w : World) (arguments : List Text) (settings : Settings) (s : Session) (t : Text),
      Request.read arguments = .ok (.run settings) → settings.segments = true →
      ((s.run w arguments).1.ending = .text t ↔
        ∃ ss, settings.found w.tree { tracing := w.env.tracing } w.draws = some ss ∧
          segmentLines ss = t)) ∧
    (∀ ss, (segmentLines ss).count '\n' = ss.length ∧
      Text.splitOn '\n' (segmentLines ss) = ss.map (fun s => s.toJson.write) ++ [[]]) ∧
    (∀ ss ss', segmentLines ss = segmentLines ss' → ss = ss') ∧
    ∀ t t' a, (Segment.mk t none).toJson.write ≠ (Segment.mk t' (some a)).toJson.write := by
  refine ⟨?_, fun ss => ⟨count_segmentLines ss, splitOn_segmentLines ss⟩,
    fun _ _ => segmentLines_injective, ?_⟩
  · intro w arguments settings s t read asked
    rw [← Settings.perform_segments asked]
    simp only [Session.run, read, Session.perform]
    cases (settings.perform w.tree { tracing := w.env.tracing } w.draws).result with
    | error f => exact ⟨nofun, nofun⟩
    | ok text =>
      constructor
      · intro h
        exact congrArg Except.ok (Ending.text.inj h)
      · intro h
        exact congrArg Ending.text (Except.ok.inj h)
  · intro t t' a same
    have objects := Segment.selfDelimiting_toJson (congrArg (· ++ []) same)
    cases objects.1

/-- A template with a quote and a line break, the break inside a marker. -/
def brokenTemplate : Text := "\"[@hover: a\nb: x]".toList

/-- What a run is asked for that writes the segments of that template. -/
def brokenSettings : Settings :=
  { directory := .text ['.'], name := .text ['p'], template := some (.text brokenTemplate)
    segments := true }

/-- The template is written on two lines, however many line breaks it has. -/
theorem segmentLines_lossless_broken :
    let arguments := "-d . -n p -s -t".toList
    let arguments := Text.splitOn ' ' arguments ++ [brokenTemplate]
    let w : World := { tree := .folder [], draws := .cycle [], stamp := [] }
    ∃ t, (({} : Session).run w arguments).1.ending = .text t ∧ t.count '\n' = 2 := by
  intro _ arguments w
  obtain ⟨runs, lines, -⟩ := segmentLines_lossless
  have read : Request.read arguments = .ok (.run brokenSettings) := rfl
  have found : brokenSettings.found w.tree { tracing := w.env.tracing } w.draws =
      some [⟨['"'], none⟩, ⟨['x'], some ⟨.runCommand, ['a', '\n', 'b']⟩⟩] := by decide +kernel
  exact ⟨_, (runs w arguments brokenSettings {} _ read rfl).2 ⟨_, found, rfl⟩, (lines _).1⟩

end Command

end Phrasebook
