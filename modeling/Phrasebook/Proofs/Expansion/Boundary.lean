import Phrasebook.Proofs.Expansion.Tracing
import Phrasebook.Proofs.Package.Agreement

/-!
# Where the depth limit falls

In a row of keys every stored text is a hole with the next key, up to a last text that has no holes
(`Row`). Expanding a key of a row takes one level of room and expands the next key with what is left
(`Row.step`): the text of the next key is that of the key, and if the next key is refused, it stands
for itself. So either the last text comes up through all the levels, or the key that was refused
does, and the two cases meet where the room is as large as the rest of the row (`row_boundary`).
-/

namespace Phrasebook

variable {ι lang : Type}

/-- A trail without its traces. -/
def untraced (trail : List (Event ι lang)) : List (Event ι lang) := trail.filter (!·.isTrace)

theorem untraced_said {n : Note} (h : n.isTrace = true) (tracing : Bool) (run : Run ι lang) :
    untraced (Step.said tracing n run).trail = untraced run.trail := by
  cases tracing with
  | false => simp [Step.said, h]
  | true => simp [untraced, h]

/-- Keys in a row, the last of them at an index. Each is stored with a hole for the next one, and
the last with a text without holes. They differ in their small forms. -/
structure Row (store : Store ι lang) (language : lang) (key : Nat → Text) (last : Nat)
    (text : Text) : Prop where
  isKey : ∀ i ≤ last, Template.IsKey (key i)
  apart : ∀ i ≤ last, ∀ j ≤ last, Text.lower (key i) = Text.lower (key j) → i = j
  names : ∀ i < last,
    store (key i) language = some (.text (Template.opening ++ key (i + 1) ++ Template.closing))
  ends : store (key last) language = some (.text text)
  closed : ¬ Template.opening <:+: text

namespace Row

/-- The chain of keys above a key of a row. -/
def above (key : Nat → Text) (i : Nat) : List Text := (List.range i).map fun j => Text.lower (key j)

/-- The lookups of some keys of a row from an index on. -/
def lookups (language : lang) (key : Nat → Text) (i count : Nat) : List (Event ι lang) :=
  (List.range' i count).map fun j => .lookup (key j) language (above key j)

theorem above_succ (key : Nat → Text) (i : Nat) :
    above key (i + 1) = above key i ++ [Text.lower (key i)] := by
  rw [above, List.range_succ, List.map_append]
  rfl

theorem lookups_succ (language : lang) (key : Nat → Text) (i count : Nat) :
    (lookups language key i (count + 1) : List (Event ι lang)) =
      .lookup (key i) language (above key i) :: lookups language key (i + 1) count := by
  rw [lookups, List.range'_succ]
  rfl

variable {store : Store ι lang} {language : lang} {key : Nat → Text} {last : Nat} {text : Text}

theorem not_mem_above (row : Row store language key last text) {i : Nat} (hi : i ≤ last) :
    Text.lower (key i) ∉ above key i := by
  intro cyclic
  obtain ⟨j, hj, same⟩ := List.mem_map.1 cyclic
  have before : j < i := List.mem_range.1 hj
  have equal : j = i := row.apart j (by omega) i hi same
  omega

variable [DecidableEq ι] {scope : Scope ι lang} {run : Run ι lang}
variable (row : Row store scope.language key last text) (hs : scope.store = some store)
include row hs

/-- With some room the last key gives its text. -/
theorem stored_last (room : Nat) (run : Run ι lang) :
    let done := scope.stored (room + 1) (above key last) (key last) run
    done.1 = some text ∧ untraced done.2.trail =
      .lookup (key last) scope.language (above key last) :: untraced run.trail := by
  intro done
  have found := Step.fetch_text row.ends (above key last) run
  have left : done = _ := Scope.stored_fetched hs (row.not_mem_above le_rfl) found (by
    rw [Template.read_unopened row.closed]
    rfl)
  rw [left]
  exact ⟨rfl, untraced_said rfl _ _⟩

/-- Without room a key is refused. -/
theorem stored_refused {i : Nat} (hi : i ≤ last) (run : Run ι lang) :
    let done := scope.stored 0 (above key i) (key i) run
    done.1 = none ∧
      untraced done.2.trail = .note (.tooDeep scope.maxDepth (key i)) :: untraced run.trail := by
  intro done
  have left : done = _ := Scope.stored_tooDeep hs (row.not_mem_above hi)
  rw [left]
  exact ⟨rfl, rfl⟩

variable (free : scope.fields = [])
include free

/-- A key before the last one gives what the next key gives one level further down, or the next key
itself if that gives nothing. -/
theorem step {i : Nat} (hi : i < last) (room : Nat) (fresh : run.memo = []) :
    let here := scope.stored (room + 1) (above key i) (key i) run
    let below := scope.stored room (above key (i + 1)) (key (i + 1))
      (Step.asked scope.language (above key i) (key i) run)
    here.1 = some (below.1.getD (key (i + 1))) ∧
      untraced here.2.trail = untraced below.2.trail := by
  intro here below
  have isKey : Template.IsKey (key (i + 1)) := row.isKey (i + 1) hi
  have unbound : Field.find? (key (i + 1)) scope.fields = none := by rw [free]; rfl
  have unheld : (Step.asked scope.language (above key i) (key i) run).memo.lookup (key (i + 1)) =
      none := by
    change run.memo.lookup (key (i + 1)) = none
    rw [fresh]
    rfl
  have found := Step.fetch_text (row.names i hi) (above key i) run
  -- the hole is filled from a run without a memo, so the next key is expanded
  have filled : scope.fillHoles (scope.stored room (above key i ++ [Text.lower (key i)]))
      (Template.read (Template.opening ++ key (i + 1) ++ Template.closing)) =
        scope.fillKey (scope.stored room (above key (i + 1))) (key (i + 1)) := by
    rw [Scope.fillHoles_key isKey, above_succ]
  cases answer : below with
  | mk value after =>
    cases value with
    | some value =>
      have left : here = _ := Scope.stored_fetched hs (row.not_mem_above hi.le) found
        (filled ▸ Scope.fillKey_stored unheld unbound answer)
      rw [left]
      exact ⟨rfl, untraced_said rfl _ _⟩
    | none =>
      have left : here = _ := Scope.stored_fetched hs (row.not_mem_above hi.le) found
        (filled ▸ Scope.fillKey_missing unheld unbound answer)
      rw [left]
      exact ⟨rfl, (untraced_said rfl _ _).trans (untraced_said rfl _ _)⟩

/-- With room for all the keys that are left, the text of the last one comes up. -/
theorem stored_ends {i : Nat} (hi : i ≤ last) (room : Nat) (enough : last < i + room)
    (fresh : run.memo = []) :
    let done := scope.stored room (above key i) (key i) run
    done.1 = some text ∧ untraced done.2.trail =
      (lookups scope.language key i (last + 1 - i)).reverse ++ untraced run.trail := by
  -- every key takes one level, and nothing is put into the memo on the way down
  induction room generalizing i run with
  | zero => omega
  | succ room ih =>
    intro done
    rcases Nat.eq_or_lt_of_le hi with rfl | inside
    · obtain ⟨value, trail⟩ := row.stored_last hs room run
      refine ⟨value, trail.trans ?_⟩
      rw [Nat.add_sub_cancel_left, lookups_succ]
      rfl
    · obtain ⟨value, trail⟩ := row.step hs free inside room fresh
      have fresh' : (Step.asked scope.language (above key i) (key i) run).memo = [] := fresh
      obtain ⟨value', trail'⟩ := ih inside (by omega) fresh'
      refine ⟨?_, ?_⟩
      · rw [value, value']
        rfl
      · have rest : last + 1 - i = last + 1 - (i + 1) + 1 := by omega
        rw [trail, trail', rest, lookups_succ, List.reverse_cons, List.append_assoc]
        rfl

/-- With less room than that, the key for which there is none comes up, unless it is the first. -/
theorem stored_stops {i : Nat} (room : Nat) (short : i + room ≤ last) (fresh : run.memo = []) :
    let done := scope.stored room (above key i) (key i) run
    done.1 = (if room = 0 then none else some (key (i + room))) ∧ untraced done.2.trail =
      (lookups scope.language key i room ++
        [Event.note (.tooDeep scope.maxDepth (key (i + room)))]).reverse ++ untraced run.trail := by
  induction room generalizing i run with
  | zero => exact row.stored_refused hs short run
  | succ room ih =>
    intro done
    have next : i + 1 + room = i + (room + 1) := by omega
    have inside : i < last := by omega
    have fresh' : (Step.asked scope.language (above key i) (key i) run).memo = [] := fresh
    obtain ⟨value, trail⟩ := row.step hs free inside room fresh
    obtain ⟨value', trail'⟩ := ih (next.trans_le short) fresh'
    rw [next] at value' trail'
    refine ⟨?_, ?_⟩
    · rw [value, value']
      cases room with
      | zero => rfl
      | succ room => rfl
    · rw [trail, trail', lookups_succ, List.cons_append, List.reverse_cons, List.append_assoc]
      rfl

end Row

section Calls

variable [DecidableEq ι] {σ : Type}

/-- But for traces, a hole does what its key does. A key without a text stands for itself. -/
theorem untraced_hole (r : Resolver) (kind : Shelf σ ι lang) (shelf : Option σ) (draws : Draws)
    (language : lang) {key : Text} (isKey : Template.IsKey key) :
    let direct := r.expandKey kind shelf draws language [] key
    let hole := r.expand kind shelf draws language [] (Template.opening ++ key ++ Template.closing)
    hole.value = direct.value.getD key ∧ untraced hole.trail = untraced direct.trail := by
  intro direct hole
  have same : hole = _ := r.expand_hole kind shelf draws language isKey rfl
  rw [same]
  refine ⟨rfl, ?_⟩
  rw [untraced, List.filter_append]
  split
  · exact List.append_nil _
  · exact List.append_nil _

/-- **The depth limit is exact.** A row of keys ends in its last text as long as the limit is
greater than the index of its last key. Otherwise the key whose index is the limit is refused with
the only warning, the keys before it are the only ones that are looked up, and it stands for the
whole row. So it is for the first key and for a hole with it; where there is no room for the first
key, the hole is filled with the key, and the key itself has no text. -/
theorem row_boundary (kind : Shelf σ ι lang) (shelf : σ) (draws : Draws) {language : lang}
    {key : Nat → Text} {last : Nat} {text : Text}
    (row : Row (kind.find shelf) language key last text) (limit : Nat) (tracing : Bool) :
    let r : Resolver := { maxDepth := limit, tracing }
    let direct := r.expandKey kind (some shelf) draws language [] (key 0)
    let hole := r.expand kind (some shelf) draws language []
      (Template.opening ++ key 0 ++ Template.closing)
    untraced hole.trail = untraced direct.trail ∧
      (last < limit → hole.value = text ∧ direct.value = some text ∧
        untraced direct.trail = Row.lookups language key 0 (last + 1)) ∧
      (limit ≤ last → hole.value = key limit ∧
        direct.value = (if limit = 0 then none else some (key limit)) ∧
        untraced direct.trail =
          Row.lookups language key 0 limit ++ [.note (.tooDeep limit (key limit))]) := by
  intro r direct hole
  obtain ⟨value, trail⟩ :=
    untraced_hole r kind (some shelf) draws language (row.isKey 0 (Nat.zero_le last))
  let scope := r.scope kind (some shelf) language []
  let run := Resolver.start kind (some shelf) draws
  have hs : scope.store = some (kind.find shelf) := rfl
  have row : Row (kind.find shelf) scope.language key last text := row
  -- a call starts with an empty trail and tells the oldest event first
  have shown {happened : List (Event ι lang)}
      (h : untraced (scope.stored limit [] (key 0) run).2.trail = happened.reverse ++ []) :
      untraced direct.trail = happened := by
    rw [List.append_nil] at h
    have turned : untraced direct.trail =
        (untraced (scope.stored limit [] (key 0) run).2.trail).reverse := List.filter_reverse
    rw [turned, h, List.reverse_reverse]
  refine ⟨trail, fun enough => ?_, fun short => ?_⟩
  · obtain ⟨ends, steps⟩ := row.stored_ends hs rfl (Nat.zero_le last) limit (by omega)
      (rfl : run.memo = [])
    have found : direct.value = some text := ends
    refine ⟨?_, found, shown steps⟩
    rw [value, found]
    rfl
  · obtain ⟨stops, steps⟩ := row.stored_stops hs rfl limit (i := 0) (by omega) (rfl : run.memo = [])
    rw [Nat.zero_add] at stops steps
    have found : direct.value = if limit = 0 then none else some (key limit) := stops
    refine ⟨?_, found, shown steps⟩
    rw [value, found]
    cases limit with
    | zero => rfl
    | succ limit => rfl

end Calls

/-- Two keys of a row. -/
def twoKeys : Nat → Text
  | 0 => ['a']
  | _ => ['B']

/-- A store with these keys, in which the last text has half of an opening. -/
def twoEntries : Entries := ⟨[(['a'], .text "{{B}}".toList), (['b'], .text "{b}".toList)]⟩

/-- The limit that refuses the second key is one less than the limit that has room for both. -/
theorem row_boundary_two :
    let calls (limit : Nat) := ({ maxDepth := limit } : Resolver).expand Entries.shelf
      (some twoEntries) (.cycle []) () [] "{{a}}".toList
    (calls 2).value = "{b}".toList ∧ (calls 1).value = ['B'] ∧
      untraced (calls 1).trail = [.lookup ['a'] () [], .note (.tooDeep 1 ['B'])] := by
  intro calls
  have row : Row (Entries.shelf.find twoEntries) () twoKeys 1 "{b}".toList := by
    refine ⟨fun i hi => ?_, fun i hi j hj same => ?_, fun i hi => ?_, ?_, ?_⟩
    · obtain rfl | rfl : i = 0 ∨ i = 1 := by omega
      · exact .of_not_word (by decide) (by decide) (by decide)
      · exact .of_not_word (by decide) (by decide) (by decide)
    · obtain rfl | rfl : i = 0 ∨ i = 1 := by omega
      · obtain rfl | rfl : j = 0 ∨ j = 1 := by omega
        · rfl
        · exact absurd same (by decide +kernel)
      · obtain rfl | rfl : j = 0 ∨ j = 1 := by omega
        · exact absurd same (by decide +kernel)
        · rfl
    · obtain rfl : i = 0 := by omega
      decide +kernel
    · decide +kernel
    · decide
  have boundary (limit : Nat) : _ ∧ _ :=
    row_boundary Entries.shelf twoEntries (.cycle []) row limit false
  obtain ⟨-, ends, -⟩ := boundary 2
  obtain ⟨same, -, stops⟩ := boundary 1
  obtain ⟨value, -, trail⟩ := stops le_rfl
  exact ⟨(ends (by decide)).1, value, (same.trans trail).trans (by decide +kernel)⟩

end Phrasebook
