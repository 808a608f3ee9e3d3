import Phrasebook.Pool

/-!
# What a roll keeps and yields

A roll turns a pool and changes nothing else about it: the candidates stay and the cursor
stays in range. A pool that has candidates yields one.
-/

namespace Phrasebook

theorem Draws.pick_lt (d : Draws) {n : Nat} (h : 0 < n) : (d.pick n).1 < n := by
  have low : 0 ≤ d.script d.taken % (n : Int) := Int.emod_nonneg _ (by omega)
  have high : d.script d.taken % (n : Int) < n := Int.emod_lt_of_pos _ (by omega)
  change (d.script d.taken % (n : Int)).toNat < n
  omega

namespace Pool

theorem advance_lt (policy : Policy) {n cursor : Nat} (h : cursor < n) :
    advance policy n cursor < n := by
  cases policy with
  | random => exact h
  | sequential =>
    simp only [advance]
    split <;> omega
  | sequentialReversed =>
    simp only [advance]
    split <;> omega

/-- The index chosen points at a candidate. -/
theorem choose_lt {p : Pool} (h : p.cursor < p.candidates.length) (shared : Draws) :
    (p.choose shared).1 < p.candidates.length := by
  have pos : 0 < p.candidates.length := by omega
  unfold choose
  split
  · exact Draws.pick_lt _ pos
  · exact Draws.pick_lt _ pos
  · exact h

theorem roll_empty {p : Pool} (h : p.candidates = []) (shared : Draws) :
    p.roll shared = (none, p, shared) := by
  rw [roll, h]
  rfl

theorem roll_nonempty {p : Pool} (h : p.candidates ≠ []) (shared : Draws) :
    p.roll shared = (p.candidates[(p.choose shared).1]?,
      { p with
        cursor := advance p.policy p.candidates.length p.cursor
        source := (p.choose shared).2.1 }, (p.choose shared).2.2) := by
  rw [roll, if_neg (by simpa using h)]

@[simp] theorem roll_candidates (p : Pool) (shared : Draws) :
    (p.roll shared).2.1.candidates = p.candidates := by
  by_cases h : p.candidates = []
  · rw [roll_empty h]
  · rw [roll_nonempty h]

/-- What a roll yields is a candidate. -/
theorem mem_candidates_of_roll {p : Pool} {shared : Draws} {picked : Text}
    (h : (p.roll shared).1 = some picked) : picked ∈ p.candidates := by
  by_cases h' : p.candidates = []
  · rw [roll_empty h'] at h
    cases h
  · rw [roll_nonempty h'] at h
    exact List.mem_of_getElem? h

theorem cursor_lt {p : Pool} (h : p.InRange) (h' : p.candidates ≠ []) :
    p.cursor < p.candidates.length := by
  have pos : 0 < p.candidates.length := List.length_pos_iff.2 h'
  rcases h with h | h <;> omega

theorem inRange_roll {p : Pool} (h : p.InRange) (shared : Draws) : (p.roll shared).2.1.InRange := by
  by_cases h' : p.candidates = []
  · rwa [roll_empty h']
  · rw [roll_nonempty h']
    exact Or.inl (advance_lt p.policy (cursor_lt h h'))

/-- A pool with candidates yields one. -/
theorem roll_isSome {p : Pool} (h : p.InRange) (h' : p.candidates ≠ []) (shared : Draws) :
    (p.roll shared).1.isSome := by
  rw [roll_nonempty h']
  simp [choose_lt (cursor_lt h h') shared]

end Pool

end Phrasebook
