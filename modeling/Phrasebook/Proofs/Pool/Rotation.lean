import Mathlib.Data.List.Nodup
import Mathlib.Data.List.Perm.Subperm
import Mathlib.Data.Nat.ModEq
import Phrasebook.Proofs.Pool.Roll

/-!
# Rotation over any run

A pool is built from candidates and then turned: candidates are added to it, it is cleared,
it is rolled, or it is written as a text, which rolls it too. Of such a history two things
count, the candidates that are left and how often the pool was rolled since they last changed
(`Rotation`).

The invariant is `Pool.Tracks`: the cursor of a pool with candidates is where that many rolls
lead (`Pool.position`). Every turn keeps it, and so every run of turns does. What the next
roll yields can be read off it, and so can what a whole round of rolls yields
(`turned_rotates`).
-/

namespace Phrasebook

/-- What is done to a pool. -/
inductive Turn where
  | add (candidate : Text)
  | clear
  | roll
  /-- Write the pool as a text, which rolls it. -/
  | spell
  deriving DecidableEq, Repr

/-- What the place of a rotation depends on: the candidates, and how often the pool was rolled
since they last changed. -/
structure Rotation where
  candidates : List Text
  rolls : Nat := 0
  deriving DecidableEq, Repr

namespace Turn

/-- Turn a pool, with the shared source of draws beside it. -/
def perform : Turn → Pool × Draws → Pool × Draws
  | add candidate, (p, shared) => (p.add candidate, shared)
  | clear, (p, shared) => (p.clear, shared)
  | roll, (p, shared) => (p.roll shared).2
  | spell, (p, shared) => (p.spelling shared).2

/-- What a turn makes of a rotation. -/
def record : Turn → Rotation → Rotation
  | add candidate, r => { candidates := r.candidates ++ [candidate] }
  | clear, _ => { candidates := [] }
  | roll, r | spell, r => { r with rolls := r.rolls + 1 }

end Turn

namespace Pool

/-- The cursor that `j` rolls of a fresh rotation over `n` candidates lead to. -/
def position (policy : Policy) (n j : Nat) : Nat :=
  match policy with
  | .random => 0
  | .sequential => j % n
  | .sequentialReversed => n - 1 - j % n

/-- Roll a pool some times: what it yields, oldest first, and what is left. -/
def rolls : Nat → Pool → Draws → List (Option Text) × Pool × Draws
  | 0, p, shared => ([], p, shared)
  | k + 1, p, shared =>
    let (picked, p, shared) := p.roll shared
    let (others, p, shared) := p.rolls k shared
    (picked :: others, p, shared)

section Positions

variable {policy : Policy} {n : Nat}

theorem position_lt (h : 0 < n) (j : Nat) : position policy n j < n := by
  have wrapped : j % n < n := Nat.mod_lt j h
  cases policy <;> simp only [position] <;> omega

theorem position_zero (policy : Policy) (n : Nat) : position policy n 0 = start policy n := by
  cases policy <;> simp [position, start]

/-- Counted modulo the candidates, the backward rotation starts at the last one. -/
theorem position_reversed (h : 0 < n) (j : Nat) :
    position .sequentialReversed n j = (((n : Int) - 1 - j) % n).toNat := by
  have wrapped : j % n < n := Nat.mod_lt j h
  have split : (j : Int) = n * (j / n : Nat) + (j % n : Nat) := by
    exact_mod_cast (Nat.div_add_mod j n).symm
  have turns : ((n : Int) - 1 - j) = ((n : Int) - 1 - (j % n : Nat)) + n * (-(j / n : Nat)) := by
    rw [Int.mul_neg]
    omega
  rw [turns, Int.add_mul_emod_self_left, Int.emod_eq_of_lt (by omega) (by omega)]
  simp only [position]
  omega

/-- Advancing a cursor is one roll more. -/
theorem advance_position (h : 0 < n) (j : Nat) :
    advance policy n (position policy n j) = position policy n (j + 1) := by
  have wrapped : j % n < n := Nat.mod_lt j h
  have next : (j + 1) % n = if j % n = n - 1 then 0 else j % n + 1 := by
    rw [← Nat.mod_add_mod]
    split
    · next last => rw [last, Nat.sub_add_cancel h, Nat.mod_self]
    · exact Nat.mod_eq_of_lt (by omega)
  cases policy with
  | random => rfl
  | sequential => exact next.symm
  | sequentialReversed =>
    change (if n - 1 - j % n = 0 then n - 1 else n - 1 - j % n - 1) = n - 1 - (j + 1) % n
    rw [next]
    split <;> split <;> omega

/-- A sequential rotation is nowhere twice in one round. -/
theorem position_injective (hpolicy : policy ≠ .random) (h : 0 < n) (j : Nat) {i i' : Nat}
    (hi : i < n) (hi' : i' < n) (same : position policy n (j + i) = position policy n (j + i')) :
    i = i' := by
  have wrapped (k : Nat) : (j + k) % n < n := Nat.mod_lt _ h
  have congruent : j + i ≡ j + i' [MOD n] := by
    cases policy with
    | random => exact absurd rfl hpolicy
    | sequential => exact same
    | sequentialReversed =>
      have := wrapped i
      have := wrapped i'
      simp only [position] at same
      change (j + i) % n = (j + i') % n
      omega
  exact (Nat.ModEq.add_left_cancel' j congruent).eq_of_lt_of_lt hi hi'

/-- One round of a sequential rotation is at every index once, wherever it starts. -/
theorem positions_perm (hpolicy : policy ≠ .random) (n j : Nat) :
    ((List.range n).map fun i => position policy n (j + i)).Perm (List.range n) := by
  have once : ((List.range n).map fun i => position policy n (j + i)).Nodup := by
    refine List.Nodup.map_on (fun i hi i' hi' same => ?_) List.nodup_range
    have bound : i < n := List.mem_range.1 hi
    exact position_injective hpolicy (by omega) j bound (List.mem_range.1 hi') same
  have inside : ((List.range n).map fun i => position policy n (j + i)) ⊆ List.range n := by
    intro k hk
    obtain ⟨i, hi, rfl⟩ := List.mem_map.1 hk
    have bound : i < n := List.mem_range.1 hi
    exact List.mem_range.2 (position_lt (by omega) _)
  exact (List.subperm_of_subset once inside).perm_of_length_le (by simp)

end Positions

section Choices

variable {p : Pool} {shared : Draws}

/-- A sequential pool yields the candidate under its cursor, and nothing but the cursor moves. -/
theorem roll_sequential (hpolicy : p.policy ≠ .random) (some : p.candidates ≠ []) :
    p.roll shared = (p.candidates[p.cursor]?,
      { p with cursor := advance p.policy p.candidates.length p.cursor }, shared) := by
  have chosen : p.choose shared = (p.cursor, p.source, shared) := by
    unfold choose
    split
    · next random _ => exact absurd random hpolicy
    · next random _ => exact absurd random hpolicy
    · rfl
  rw [roll_nonempty some, chosen]

/-- A random pool yields the candidate that is drawn, and nothing but a source of draws moves. -/
theorem roll_random (hpolicy : p.policy = .random) (some : p.candidates ≠ []) :
    p.roll shared = (p.candidates[(p.choose shared).1]?,
      { p with source := (p.choose shared).2.1 }, (p.choose shared).2.2) := by
  have still : advance p.policy p.candidates.length p.cursor = p.cursor := by rw [hpolicy]; rfl
  rw [roll_nonempty some, still]

theorem choose_own {own : Draws} (hpolicy : p.policy = .random) (hsource : p.source = some own) :
    p.choose shared =
      ((own.pick p.candidates.length).1, some (own.pick p.candidates.length).2, shared) := by
  simp only [choose, hpolicy, hsource]

theorem choose_shared (hpolicy : p.policy = .random) (hsource : p.source = none) :
    p.choose shared =
      ((shared.pick p.candidates.length).1, none, (shared.pick p.candidates.length).2) := by
  simp only [choose, hpolicy, hsource]

end Choices

/-- A pool stands where its rotation has come to. -/
structure Tracks (p : Pool) (kind : Policy) (r : Rotation) : Prop where
  policy : p.policy = kind
  candidates : p.candidates = r.candidates
  atZero : r.candidates = [] → p.cursor = 0
  cursor : r.candidates ≠ [] → p.cursor = position kind r.candidates.length r.rolls

/-- What is known of a pool and its next roll, by its policy and its rotation. -/
structure Rotates (p : Pool) (shared : Draws) (kind : Policy) (r : Rotation) : Prop where
  policy : p.policy = kind
  candidates : p.candidates = r.candidates
  inRange : r.candidates ≠ [] → p.cursor < r.candidates.length
  atZero : r.candidates = [] → p.cursor = 0
  /-- An empty pool yields nothing, draws nothing and stays as it is. -/
  empty : r.candidates = [] → p.roll shared = (none, p, shared)
  /-- A pool with candidates yields one. -/
  yields : r.candidates ≠ [] → (p.roll shared).1.isSome
  /-- Forward, only the cursor moves. -/
  forward : kind = .sequential → r.candidates ≠ [] →
    let n := r.candidates.length
    p.roll shared =
      (r.candidates[r.rolls % n]?, { p with cursor := (r.rolls + 1) % n }, shared)
  /-- Backward, only the cursor moves. -/
  backward : kind = .sequentialReversed → r.candidates ≠ [] →
    let n : Int := r.candidates.length
    p.roll shared =
      (r.candidates[((n - 1 - r.rolls) % n).toNat]?,
        { p with cursor := ((n - 1 - (r.rolls + 1 : Nat)) % n).toNat }, shared)
  /-- A random pool yields what its own source draws, and only that source moves. -/
  drawsOwn : kind = .random → r.candidates ≠ [] → ∀ own, p.source = some own →
    let (i, after) := own.pick r.candidates.length
    p.roll shared = (r.candidates[i]?, { p with source := some after }, shared)
  /-- Without a source of its own it draws from the shared one, and nothing else moves. -/
  drawsShared : kind = .random → r.candidates ≠ [] → p.source = none →
    let (i, after) := shared.pick r.candidates.length
    p.roll shared = (r.candidates[i]?, p, after)
  /-- One round of a sequential pool is at every index once. -/
  round : kind ≠ .random → ∃ indices : List Nat, indices.Perm (List.range r.candidates.length) ∧
    (p.rolls r.candidates.length shared).1 = indices.map (r.candidates[·]?)

section Turns

variable {kind : Policy} {r : Rotation} {p : Pool}

theorem Tracks.add (h : p.Tracks kind r) (candidate : Text) :
    (p.add candidate).Tracks kind ((Turn.add candidate).record r) where
  policy := h.policy
  candidates := by simp [Pool.add, Turn.record, h.candidates]
  atZero empty := by simp [Turn.record] at empty
  cursor _ := by
    simp only [Pool.add, Turn.record, h.candidates, h.policy, List.length_append,
      List.length_singleton, position_zero]

theorem Tracks.clear (h : p.Tracks kind r) : p.clear.Tracks kind (Turn.clear.record r) where
  policy := h.policy
  candidates := rfl
  atZero _ := rfl
  cursor filled := absurd rfl filled

theorem Tracks.empty (h : p.Tracks kind r) (none : r.candidates = []) : p.candidates = [] :=
  h.candidates.trans none

theorem Tracks.filled (h : p.Tracks kind r) (some : r.candidates ≠ []) : p.candidates ≠ [] := by
  rwa [h.candidates]

/-- A roll moves the cursor to where one roll more leads. -/
theorem Tracks.roll (h : p.Tracks kind r) (shared : Draws) :
    (p.roll shared).2.1.Tracks kind (Turn.roll.record r) := by
  by_cases none : r.candidates = []
  · rw [roll_empty (h.empty none)]
    exact ⟨h.policy, h.candidates, h.atZero, fun filled => absurd none filled⟩
  · rw [roll_nonempty (h.filled none)]
    refine ⟨h.policy, h.candidates, fun empty => absurd empty none, fun filled => ?_⟩
    have some : 0 < r.candidates.length := List.length_pos_iff.2 none
    change advance p.policy p.candidates.length p.cursor = _
    rw [h.policy, h.candidates, h.cursor filled, advance_position some]
    rfl

theorem Tracks.perform {shared : Draws} (h : p.Tracks kind r) (t : Turn) :
    (t.perform (p, shared)).1.Tracks kind (t.record r) := by
  cases t with
  | add candidate => exact h.add candidate
  | clear => exact h.clear
  | roll => exact h.roll shared
  | spell => exact h.roll shared

/-- Whatever is done to a pool, it stands where its rotation has come to. -/
theorem Tracks.run {state : Pool × Draws} (h : state.1.Tracks kind r) (turns : List Turn) :
    (turns.foldl (fun s t => t.perform s) state).1.Tracks kind
      (turns.foldl (fun r t => t.record r) r) := by
  induction turns generalizing state r with
  | nil => exact h
  | cons t turns ih => exact ih (h.perform t)

/-- A pool that is built from candidates starts a fresh rotation over them. -/
theorem tracks_ofList (kind : Policy) (initial : List Text) (source : Option Draws) :
    (ofList kind initial source).Tracks kind { candidates := initial } := by
  have empty : Tracks { policy := kind, source } kind { candidates := [] } :=
    ⟨rfl, rfl, fun _ => rfl, fun filled => absurd rfl filled⟩
  have added (more : List Text) (p : Pool) (old : List Text)
      (h : p.Tracks kind { candidates := old }) :
      (more.foldl Pool.add p).Tracks kind { candidates := old ++ more } := by
    induction more generalizing p old with
    | nil => rwa [List.append_nil]
    | cons candidate more ih =>
      have next := ih _ _ (h.add candidate)
      simpa [Turn.record] using next
  exact added initial _ [] empty

section Rolls

variable {shared : Draws}

theorem Tracks.cursor_lt (h : p.Tracks kind r) (some : r.candidates ≠ []) :
    p.cursor < r.candidates.length := by
  rw [h.cursor some]
  exact position_lt (List.length_pos_iff.2 some) _

/-- The next roll of a sequential pool, by its rotation. -/
theorem Tracks.roll_eq (h : p.Tracks kind r) (some : r.candidates ≠ []) (hkind : kind ≠ .random) :
    p.roll shared = (r.candidates[position kind r.candidates.length r.rolls]?,
      { p with cursor := position kind r.candidates.length (r.rolls + 1) }, shared) := by
  rw [roll_sequential (h.policy ▸ hkind) (h.filled some), h.policy, h.candidates, h.cursor some,
    advance_position (List.length_pos_iff.2 some)]

/-- Rolling on yields what the positions from here on point at. -/
theorem Tracks.rolls_eq (h : p.Tracks kind r) (some : r.candidates ≠ []) (hkind : kind ≠ .random)
    (k : Nat) :
    (p.rolls k shared).1 = (List.range k).map fun i =>
      r.candidates[position kind r.candidates.length (r.rolls + i)]? := by
  induction k generalizing p r shared with
  | zero => rfl
  | succ k ih =>
    have first : (p.roll shared).1 = r.candidates[position kind r.candidates.length r.rolls]? :=
      congrArg Prod.fst (h.roll_eq some hkind)
    have others : (((p.roll shared).2.1).rolls k (p.roll shared).2.2).1 = (List.range k).map fun i =>
        r.candidates[position kind r.candidates.length (r.rolls + 1 + i)]? :=
      ih (h.roll shared) some
    rw [List.range_succ_eq_map, List.map_cons, List.map_map]
    change (p.roll shared).1 :: ((p.roll shared).2.1.rolls k (p.roll shared).2.2).1 = _
    rw [first, others]
    simp only [Function.comp_def, Nat.add_zero, Nat.succ_eq_add_one, Nat.add_assoc, Nat.add_comm 1]

/-- What is known of a pool that stands where its rotation has come to. -/
theorem Tracks.rotates (h : p.Tracks kind r) (shared : Draws) : p.Rotates shared kind r where
  policy := h.policy
  candidates := h.candidates
  inRange := h.cursor_lt
  atZero := h.atZero
  empty none := roll_empty (h.empty none) shared
  yields some := roll_isSome (.inl (h.candidates ▸ h.cursor_lt some)) (h.filled some) shared
  forward hkind some := by
    subst hkind
    exact h.roll_eq some (by decide)
  backward hkind some := by
    subst hkind
    have pos : 0 < r.candidates.length := List.length_pos_iff.2 some
    simp only [← position_reversed pos]
    exact h.roll_eq some (by decide)
  drawsOwn hkind some own hsource := by
    rw [roll_random (h.policy.trans hkind) (h.filled some), choose_own (h.policy.trans hkind) hsource,
      h.candidates]
  drawsShared hkind some hsource := by
    have still : { p with source := none } = p := by rw [← hsource]
    rw [← h.candidates, roll_random (h.policy.trans hkind) (h.filled some),
      choose_shared (h.policy.trans hkind) hsource, still]
  round hkind := by
    refine ⟨_, positions_perm hkind r.candidates.length r.rolls, ?_⟩
    by_cases none : r.candidates = []
    · rw [none]
      rfl
    · rw [h.rolls_eq none hkind, List.map_map]
      rfl

end Rolls

end Turns

/-- **The rotation of a pool over any run.** However a pool is built and whatever is done to it
then, its cursor is in range, and what its next roll and its next round of rolls yield is
given by its policy, by the candidates it has, and by how often it was rolled since they last
changed. -/
theorem turned_rotates (kind : Policy) (initial : List Text) (source : Option Draws)
    (shared : Draws) (turns : List Turn) :
    let turned := turns.foldl (fun s t => t.perform s) (ofList kind initial source, shared)
    turned.1.Rotates turned.2 kind (turns.foldl (fun r t => t.record r) { candidates := initial }) :=
  (Tracks.run (tracks_ofList kind initial source) turns).rotates _

/-- Backward over three candidates, and once around. -/
example : (rolls 4 (ofList .sequentialReversed [['a'], ['b'], ['c']] none) (.cycle [])).1 =
    [some ['c'], some ['b'], some ['a'], some ['c']] := by decide

end Pool

end Phrasebook
