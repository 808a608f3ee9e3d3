import Phrasebook.Value

/-!
# Rotating pools

A pool is a list of candidates of which every roll yields one. A sequential pool walks its
candidates forward or backward with a cursor that wraps around at the end, and a random
pool asks a source of draws. Adding a candidate or clearing the pool starts the rotation
again. `Pool.InRange` is what every operation keeps: the cursor points at a candidate, or is
zero where there is none.
-/

namespace Phrasebook

/-- The order in which a pool yields its candidates. -/
inductive Policy where
  | random
  | sequential
  | sequentialReversed
  deriving DecidableEq, Repr

namespace Policy

/-- All policies in their order. -/
def all : List Policy := [.random, .sequential, .sequentialReversed]

/-- The name of a policy. -/
def name : Policy → Text
  | .random => "RANDOM".toList
  | .sequential => "SEQUENTIAL".toList
  | .sequentialReversed => "SEQUENTIAL_REVERSED".toList

/-- The policy of a name, in capital or small letters, with white space around it. -/
def ofName? (s : Text) : Option Policy :=
  all.find? fun p => p.name == Text.upper (Text.trim s)

end Policy

/-- A source of draws: an endless script of integers and how many of them are used up. -/
structure Draws where
  script : Nat → Int
  taken : Nat := 0

namespace Draws

/-- A script that is repeated without end; an empty one draws zeros. -/
def cycle (script : List Int) : Draws :=
  { script := fun i => script.getD (i % script.length) 0 }

/-- An index below `n`, by the next draw. -/
def pick (d : Draws) (n : Nat) : Nat × Draws :=
  ((d.script d.taken % n).toNat, { d with taken := d.taken + 1 })

end Draws

/-- A rotating pool. A pool with a source of its own draws from that, any other from the
source it is handed. -/
structure Pool where
  policy : Policy := .sequential
  candidates : List Text := []
  cursor : Nat := 0
  source : Option Draws := none

namespace Pool

/-- The cursor from which a fresh rotation over `n` candidates starts. -/
def start (policy : Policy) (n : Nat) : Nat :=
  match policy with
  | .sequentialReversed => n - 1
  | _ => 0

/-- The cursor after a roll. -/
def advance (policy : Policy) (n cursor : Nat) : Nat :=
  match policy with
  | .random => cursor
  | .sequential => if cursor = n - 1 then 0 else cursor + 1
  | .sequentialReversed => if cursor = 0 then n - 1 else cursor - 1

/-- A candidate behind the others; the rotation starts again. -/
def add (p : Pool) (candidate : Text) : Pool :=
  { p with
    candidates := p.candidates ++ [candidate]
    cursor := start p.policy (p.candidates.length + 1) }

/-- No candidates. -/
def clear (p : Pool) : Pool := { p with candidates := [], cursor := 0 }

/-- The pool of the given candidates. -/
def ofList (policy : Policy) (candidates : List Text) (source : Option Draws) : Pool :=
  candidates.foldl add { policy, source }

/-- The index of the next candidate of a pool that has one, with the sources afterwards. -/
def choose (p : Pool) (shared : Draws) : Nat × Option Draws × Draws :=
  match p.policy, p.source with
  | .random, some own =>
    let (i, own) := own.pick p.candidates.length
    (i, some own, shared)
  | .random, none =>
    let (i, shared) := shared.pick p.candidates.length
    (i, none, shared)
  | _, source => (p.cursor, source, shared)

/-- The next candidate, with the pool and the shared source afterwards. An empty pool yields
nothing and changes nothing. -/
def roll (p : Pool) (shared : Draws) : Option Text × Pool × Draws :=
  if p.candidates.isEmpty then (none, p, shared)
  else
    let (i, source, shared) := p.choose shared
    (p.candidates[i]?,
      { p with cursor := advance p.policy p.candidates.length p.cursor, source }, shared)

/-- The text of a pool, which rolls it: the next candidate, or no text where there is none. -/
def spelling (p : Pool) (shared : Draws) : Text × Pool × Draws :=
  let (picked, p, shared) := p.roll shared
  (picked.getD [], p, shared)

/-- The spelling of a pool in a message. -/
def literal (p : Pool) : Text :=
  "StringPool(".toList ++ p.policy.name ++ ", ".toList ++
    (Value.list (p.candidates.map Value.ofText)).literal ++ ")".toList

/-- The cursor points at a candidate, or is zero where there is none. -/
def InRange (p : Pool) : Prop := p.cursor < p.candidates.length ∨ p.cursor = 0

theorem inRange_start (policy : Policy) (n : Nat) : start policy n < n ∨ start policy n = 0 := by
  unfold start
  split <;> omega

theorem inRange_add (p : Pool) (candidate : Text) : (p.add candidate).InRange := by
  simpa [InRange, add] using inRange_start p.policy (p.candidates.length + 1)

theorem inRange_clear (p : Pool) : p.clear.InRange := Or.inr rfl

end Pool

end Phrasebook
