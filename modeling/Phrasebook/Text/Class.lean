import Phrasebook.Text.Basic

/-!
# Character classes as ranges of code points

A class is a list of closed ranges of code points; membership is one Boolean test,
`inRangesB`, with `inRangesB_iff` to reason by. The class that matters everywhere is
white space: the characters that trimming removes. The set is that of Unicode 14 with
the four information separators, and without the zero width characters. Decimal digits of
any script have a value, by their distance from the zero of the script.
-/

namespace Phrasebook.Text

/-- Closed ranges of code points. -/
abbrev Ranges := List (Nat × Nat)

/-- Membership of a character in a list of closed ranges. -/
def inRangesB (rs : Ranges) (c : Char) : Bool :=
  rs.any fun r => decide (r.1 ≤ c.toNat) && decide (c.toNat ≤ r.2)

theorem inRangesB_iff {rs : Ranges} {c : Char} :
    inRangesB rs c = true ↔ ∃ r ∈ rs, r.1 ≤ c.toNat ∧ c.toNat ≤ r.2 := by
  simp [inRangesB]

/-- White space, the information separators U+001C to U+001F included. -/
def blankRanges : Ranges :=
  [(0x9, 0xD), (0x1C, 0x20), (0x85, 0x85), (0xA0, 0xA0), (0x1680, 0x1680), (0x2000, 0x200A),
   (0x2028, 0x2029), (0x202F, 0x202F), (0x205F, 0x205F), (0x3000, 0x3000)]

/-- Is the character white space? -/
def isBlank (c : Char) : Bool := inRangesB blankRanges c

/-- The text without the white space at its ends. -/
def trim (s : Text) : Text := trimBy isBlank s

/-- The zeros of the scripts that write numbers in decimal; each is followed by the digits
from one to nine. -/
def decimalZeros : List Nat :=
  [0x30, 0x660, 0x6F0, 0x7C0, 0x966, 0x9E6, 0xA66, 0xAE6, 0xB66, 0xBE6, 0xC66, 0xCE6, 0xD66,
   0xDE6, 0xE50, 0xED0, 0xF20, 0x1040, 0x1090, 0x17E0, 0x1810, 0x1946, 0x19D0, 0x1A80, 0x1A90,
   0x1B50, 0x1BB0, 0x1C40, 0x1C50, 0xA620, 0xA8D0, 0xA900, 0xA9D0, 0xA9F0, 0xAA50, 0xABF0, 0xFF10,
   0x104A0, 0x10D30, 0x11066, 0x110F0, 0x11136, 0x111D0, 0x112F0, 0x11450, 0x114D0, 0x11650,
   0x116C0, 0x11730, 0x118E0, 0x11950, 0x11C50, 0x11D50, 0x11DA0, 0x16A60, 0x16AC0, 0x16B50,
   0x1D7CE, 0x1D7D8, 0x1D7E2, 0x1D7EC, 0x1D7F6, 0x1E140, 0x1E2F0, 0x1E950, 0x1FBF0]

/-- The value of a decimal digit of any script. -/
def decimal? (c : Char) : Option Nat :=
  (decimalZeros.find? fun start => decide (start ≤ c.toNat) && decide (c.toNat < start + 10)).map
    (c.toNat - ·)

/-- The text with the decimal digits of every script exchanged for those of ASCII. -/
def plainDigits (s : Text) : Text :=
  s.map fun c => match decimal? c with
    | some d => Char.ofNat ('0'.toNat + d)
    | none => c

/-- White space in the narrow sense is white space here. -/
theorem isBlank_of_isWhitespace {c : Char} (h : c.isWhitespace = true) : isBlank c = true := by
  simp only [Char.isWhitespace, Bool.or_eq_true, decide_eq_true_eq] at h
  rcases h with ((h | h) | h) | h <;> subst h <;> decide

end Phrasebook.Text
