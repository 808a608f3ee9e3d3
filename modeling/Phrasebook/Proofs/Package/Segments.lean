import Phrasebook.Proofs.Markup.Grammar
import Phrasebook.Proofs.Package.Reading

/-!
# The segments of a string

A request for segments reads the finished string of a key and takes it apart, but only if a marker
opens in it. A string in which none opens is passed by the reader up to its end, whatever else it
has in it, so it is one segment either way unless it is empty (`segmentsOf_eq`). What the request
leaves behind is what reading the string leaves behind, also where the string is faulty
(`segments_agree`).
-/

namespace Phrasebook

/-- A line in which no marker opens is one segment. -/
theorem Markup.segment_unopened {line : Text} (h : ¬ Markup.opening <:+: line) (full : line ≠ []) :
    Phrasebook.segment line = .ok [⟨line, none⟩] := by
  rw [Phrasebook.segment, Markup.read, readPlain_ends h, segments, plainSegment,
    if_neg (mt List.isEmpty_iff.1 full)]

namespace Package

variable {line : Text} {fault : MarkupFault}

theorem segmentsOf_eq (full : line ≠ []) : segmentsOf line = segment line := by
  unfold segmentsOf
  split
  · rfl
  · next unopened =>
    have plain : ¬ Markup.opening <:+: line :=
      Markup.unopened_of_hasPair (Bool.eq_false_iff.2 unopened)
    exact (Markup.segment_unopened plain full).symm

/-- The shortcut hides no fault and makes none. -/
theorem segmentsOf_error_iff : segmentsOf line = .error fault ↔ segment line = .error fault := by
  by_cases full : line = []
  · rw [full]
    exact ⟨nofun, nofun⟩
  · rw [segmentsOf_eq full]

/-- **Segments are those of the string.** To ask for the segments of a key, in any language and with
any fields, leaves the package and the draws as asking for its string does. There are no segments
exactly if there is no string, and the request ends in a fault exactly if segmenting the string
does. Otherwise a string that is not empty has the segments that segmenting gives; the empty string
has an empty one, where segmenting gives none. -/
theorem segments_agree (r : Resolver) (state : Package × Draws) (language : Language)
    (fields : List (Option Field)) (key : Text) :
    let string := (state.1.string r state.2 language fields key).value
    let asked := read r state (.segments language fields key)
    read r state (.string language fields key) = (.text string, asked.2) ∧
      (asked.1 = .segments (.ok none) ↔ string = none) ∧
      (∀ fault, asked.1 = .segments (.error fault) ↔
        ∃ line, string = some line ∧ segment line = .error fault) ∧
      (∀ line, string = some line → line ≠ [] →
        asked.1 = .segments ((segment line).map some)) ∧
      (string = some [] → asked.1 = .segments (.ok (some [⟨[], none⟩])) ∧ segment [] = .ok []) := by
  intro string asked
  have reply : asked.1 = .segments (string.mapM segmentsOf) := rfl
  refine ⟨rfl, ?_⟩
  rw [reply]
  cases string with
  | none => exact ⟨⟨fun _ => rfl, fun _ => rfl⟩, fun fault => ⟨nofun, nofun⟩, nofun, nofun⟩
  | some line =>
    have taken : (some line).mapM segmentsOf = (segmentsOf line).map some := Option.mapM_some _ _
    have answered : Reply.segments ((segmentsOf line).map some) ≠ .segments (.ok none) := by
      cases segmentsOf line <;> exact nofun
    have faulty (fault : MarkupFault) :
        Reply.segments ((segmentsOf line).map some) = .segments (.error fault) ↔
          segment line = .error fault := by
      rw [← segmentsOf_error_iff]
      cases segmentsOf line <;> simp [Except.map]
    rw [taken]
    refine ⟨⟨fun none => absurd none answered, nofun⟩, fun fault => ?_, ?_, ?_⟩
    · rw [faulty]
      exact ⟨fun error => ⟨line, rfl, error⟩, by rintro ⟨_, ⟨⟩, error⟩; exact error⟩
    · rintro _ ⟨⟩ full
      rw [segmentsOf_eq full]
    · rintro ⟨⟩
      exact ⟨rfl, rfl⟩

/-- A folder with the file of a package. There is one pool in it, with a candidate that is no
markup, an empty one, and one in which no marker opens. -/
def scrapTree : Tree := .folder [("p_en.yml".toList, .file (.document (.ofValue (.dict [
  (.ofText ['t'], .dict [(.ofText "pool".toList,
    .list [.ofText "[@".toList, .ofText [], .ofText "]:@[".toList])])]))))]

/-- The package of that folder. -/
def scraps : Package := ((new ['.'] ['p'] none).load scrapTree []).value

/-- Every request takes one candidate, also the one that ends in a fault. -/
theorem segments_agree_scraps :
    let ask (state : Package × Draws) := read {} state (.segments .english [] ['t'])
    let first := ask (scraps, .cycle [])
    let second := ask first.2
    let third := ask second.2
    first.1 = .segments (.error .unterminated) ∧ second.1 = .segments (.ok (some [⟨[], none⟩])) ∧
      third.1 = .segments (.ok (some [⟨"]:@[".toList, none⟩])) := by
  intro ask first second third
  obtain ⟨-, -, faulty, -⟩ := segments_agree {} (scraps, .cycle []) .english [] ['t']
  obtain ⟨-, -, -, -, empty⟩ := segments_agree {} first.2 .english [] ['t']
  obtain ⟨-, -, -, full, -⟩ := segments_agree {} second.2 .english [] ['t']
  refine ⟨(faulty _).2 ⟨"[@".toList, by decide +kernel, by decide +kernel⟩,
    (empty (by decide +kernel)).1, ?_⟩
  have segmented : segment "]:@[".toList = .ok [⟨"]:@[".toList, none⟩] :=
    Markup.segment_unopened (by decide) (by decide)
  rw [full "]:@[".toList (by decide +kernel) (by decide), segmented]
  rfl

end Package

end Phrasebook
