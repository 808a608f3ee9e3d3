import Phrasebook.Number.Binary64

/-!
# The shortest decimal that reads back

`shortest` gives the decimal with the fewest digits that rounds to a given positive
number, and of those the one nearest to it. The numbers that round to ± m · 2^e lie
between the midpoints to the two neighbours, the midpoints included exactly when m is
even. On the grid of decimals with n digits only the two points around the value can lie
in that interval if any point does, so each grid is settled by two tests in whole numbers.

A `Layout` says how the digits are written: where positional notation ends and what an
exponent looks like.
-/

namespace Phrasebook

namespace Binary64

/-- An interval of positive fractions with a common denominator around a value. -/
structure Interval where
  low : Nat
  value : Nat
  high : Nat
  den : Nat
  closed : Bool

/-- The numbers that round to `m · 2^e`. Below a power of two the grid is twice as fine. -/
def roundingInterval (m : Nat) (e : Int) : Interval :=
  let low := if m = Nat.pow 2 52 ∧ minExponent < e then 4 * m - 1 else 4 * m - 2
  if 2 ≤ e then
    let p := Nat.pow 2 (e - 2).toNat
    ⟨low * p, 4 * m * p, (4 * m + 2) * p, 1, m % 2 == 0⟩
  else ⟨low, 4 * m, 4 * m + 2, Nat.pow 2 (2 - e).toNat, m % 2 == 0⟩

/-- Does `digits · 10^exponent` lie in the interval? -/
def Interval.holds (i : Interval) (digits : Nat) (exponent : Int) : Bool :=
  let (x, d) := if 0 ≤ exponent then (digits * Nat.pow 10 exponent.toNat * i.den, 1)
    else (digits * i.den, Nat.pow 10 (-exponent).toNat)
  if i.closed then i.low * d ≤ x && x ≤ i.high * d else i.low * d < x && x < i.high * d

/-- The exponent of the first decimal digit of `num / den`. -/
def leadingExponent (num den : Nat) : Int :=
  let k : Int := ((Text.ofNat num).length : Int) - (Text.ofNat den).length
  let reached := if 0 ≤ k then den * Nat.pow 10 k.toNat ≤ num else den ≤ num * Nat.pow 10 (-k).toNat
  if reached then k else k - 1

/-- The best decimal of `n` digits in the interval, if there is one: of the two around the
value the nearer, and in a tie the even one. -/
def Interval.best? (i : Interval) (n : Nat) : Option (Nat × Int) :=
  let k : Int := leadingExponent i.value i.den - n + 1
  let (num, den) := if 0 ≤ k then (i.value, i.den * Nat.pow 10 k.toNat)
    else (i.value * Nat.pow 10 (-k).toNat, i.den)
  let d := num / den
  let r := num % den
  match i.holds d k, i.holds (d + 1) k with
  | true, true =>
    if 2 * r < den ∨ (2 * r = den ∧ d % 2 = 0) then some (d, k) else some (d + 1, k)
  | true, false => some (d, k)
  | false, true => some (d + 1, k)
  | false, false => none

/-- The first grid with a decimal in the interval, from `n` digits on. -/
def Interval.search (i : Interval) : Nat → Nat → Nat × Int
  | 0, n => (i.best? n).getD (0, 0)
  | tries + 1, n =>
    match i.best? n with
    | some hit => hit
    | none => i.search tries (n + 1)

/-- Digits and exponent of the shortest decimal that rounds to `m · 2^e`, for `m` positive.
Seventeen digits are always enough. -/
def shortest (m : Nat) (e : Int) : Nat × Int := (roundingInterval m e).search 17 1

end Binary64

/-- How a decimal is written out. Positional notation is used while the exponent of the
first digit is at least `positionalFrom` and below `positionalBelow`. -/
structure Layout where
  positionalFrom : Int
  positionalBelow : Int
  exponentDigits : Nat
  nanText : Text
  infinityText : Text

/-- The layout of numbers in texts and messages: `0.0001` and `1e-05`, `1e+16`. -/
def plainLayout : Layout := ⟨-4, 16, 2, ['n', 'a', 'n'], ['i', 'n', 'f']⟩

/-- The layout of numbers in log lines, which spell out what is not finite. -/
def jsonLayout : Layout :=
  { plainLayout with nanText := "NaN".toList, infinityText := "Infinity".toList }

namespace Layout

/-- The digits of a decimal without the zeros at its end, and the exponent of its first
digit. -/
def normalize (digits : Nat) (exponent : Int) : Text × Int :=
  let ds := Text.ofNat digits
  ((ds.reverse.dropWhile (· == '0')).reverse, exponent + ds.length - 1)

/-- Digits with the point after the first `n` of them; there is always a digit on each
side. -/
def positional (ds : Text) (leading : Int) : Text :=
  if leading < 0 then '0' :: '.' :: (List.replicate (-leading - 1).toNat '0' ++ ds)
  else
    let whole := leading.toNat + 1
    let ds := ds ++ List.replicate (whole - ds.length) '0'
    let behind := ds.drop whole
    ds.take whole ++ '.' :: (if behind.isEmpty then ['0'] else behind)

/-- Digits with an exponent; the point is left out after a single digit. -/
def scientific (l : Layout) (ds : Text) (leading : Int) : Text :=
  let mantissa := match ds with
    | [] => []
    | [d] => [d]
    | d :: r => d :: '.' :: r
  let sign := if leading < 0 then '-' else '+'
  mantissa ++ 'e' :: sign :: Text.padLeft l.exponentDigits (Text.ofNat leading.natAbs)

/-- The magnitude `m · 2^e` written in a layout. -/
def magnitude (l : Layout) (m : Nat) (e : Int) : Text :=
  if m = 0 then ['0', '.', '0']
  else
    let (digits, exponent) := Binary64.shortest m e
    let (ds, leading) := normalize digits exponent
    if l.positionalFrom ≤ leading ∧ leading < l.positionalBelow then positional ds leading
    else l.scientific ds leading

/-- A number written in a layout. -/
def write (l : Layout) : Binary64 → Text
  | .nan => l.nanText
  | .infinite negative => if negative then '-' :: l.infinityText else l.infinityText
  | .finite negative m e => if negative then '-' :: l.magnitude m e else l.magnitude m e

end Layout

end Phrasebook
