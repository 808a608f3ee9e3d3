/-!
# Texts and how they are cut

A text is the list of its characters, so every offset and every length counts
characters. This file holds the cuts the rest of the library is written with:
trimming at both ends, splitting at a character, at most so many times, or at a pair
of adjacent characters, and joining the pieces again. All of them are structural
recursions on the list, and the lemmas beside them say that cutting loses nothing.
-/

namespace Phrasebook

/-- A text is the list of its characters. -/
abbrev Text := List Char

namespace Text

/-- Drop the characters of a class from both ends. -/
def trimBy (p : Char → Bool) (s : Text) : Text :=
  ((s.dropWhile p).reverse.dropWhile p).reverse

/-- Put a character before the first piece. -/
def consHead (c : Char) : List Text → List Text
  | [] => [[c]]
  | p :: ps => (c :: p) :: ps

/-- The pieces between the occurrences of a separator. -/
def splitOn (sep : Char) : Text → List Text
  | [] => [[]]
  | c :: r => if c = sep then [] :: splitOn sep r else consHead c (splitOn sep r)

/-- The pieces around at most `n` occurrences of a separator, from the left. -/
def splitAtMost (sep : Char) : Nat → Text → List Text
  | _, [] => [[]]
  | 0, s => [s]
  | n + 1, c :: r =>
    if c = sep then [] :: splitAtMost sep n r else consHead c (splitAtMost sep (n + 1) r)

/-- The pieces around the occurrences of `a` directly followed by `b`, met from the left. -/
def splitPair (a b : Char) : Text → List Text
  | [] => [[]]
  | [c] => [[c]]
  | c :: d :: r =>
    if c = a ∧ d = b then [] :: splitPair a b r else consHead c (splitPair a b (d :: r))

/-- Does `a` occur directly followed by `b`? -/
def hasPair (a b : Char) : Text → Bool
  | [] => false
  | [_] => false
  | c :: d :: r => (c == a && d == b) || hasPair a b (d :: r)

/-- The pieces with the separator between each two. -/
def joinWith (sep : Text) : List Text → Text
  | [] => []
  | [p] => p
  | p :: q :: ps => p ++ sep ++ joinWith sep (q :: ps)

/-- The decimal digits of a natural number. -/
def ofNat (n : Nat) : Text := Nat.toDigits 10 n

/-- The decimal digits of an integer, after a minus sign where it is negative. -/
def ofInt : Int → Text
  | .ofNat n => ofNat n
  | .negSucc n => '-' :: ofNat (n + 1)

/-- Zeros on the left up to a width. -/
def padLeft (width : Nat) (s : Text) : Text := List.replicate (width - s.length) '0' ++ s

/-- Lower-case hexadecimal digits, with zeros on the left up to a width. -/
def hex (width n : Nat) : Text := padLeft width (Nat.toDigits 16 n)

/-- The text with every occurrence of one character left out. -/
def without (c : Char) (s : Text) : Text := s.filter (· != c)

theorem splitOn_ne_nil (sep : Char) (s : Text) : splitOn sep s ≠ [] := by
  cases s with
  | nil => simp [splitOn]
  | cons c r =>
    unfold splitOn
    split
    · simp
    · cases splitOn sep r <;> simp [consHead]

theorem splitPair_ne_nil (a b : Char) (s : Text) : splitPair a b s ≠ [] := by
  match s with
  | [] => simp [splitPair]
  | [c] => simp [splitPair]
  | c :: d :: r =>
    unfold splitPair
    split
    · simp
    · cases splitPair a b (d :: r) <;> simp [consHead]

/-- A character put before the first piece stands at the head of the joined text. -/
theorem joinWith_consHead (sep : Text) (c : Char) {ps : List Text} (h : ps ≠ []) :
    joinWith sep (consHead c ps) = c :: joinWith sep ps := by
  match ps, h with
  | [p], _ => rfl
  | p :: q :: ps, _ => rfl

/-- Splitting at a separator loses nothing but the separators. -/
theorem joinWith_splitOn (sep : Char) (s : Text) : joinWith [sep] (splitOn sep s) = s := by
  induction s with
  | nil => rfl
  | cons c r ih =>
    unfold splitOn
    split
    · next h =>
      subst h
      match hp : splitOn c r, splitOn_ne_nil c r with
      | p :: ps, _ => rw [hp] at ih; simp [joinWith, ih]
    · rw [joinWith_consHead _ _ (splitOn_ne_nil sep r), ih]

end Text

end Phrasebook
