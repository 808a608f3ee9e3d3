import Phrasebook.Text.Case

/-!
# Binary floating point, exactly

A binary64 number is kept as what it denotes: not a number, an infinity, or
± mantissa · 2^exponent. Arithmetic is exact on fractions of natural numbers and ends in
one rounding, `round`, which goes to the nearest number and in a tie to the even mantissa.
Nothing here depends on the machine's floating point unit, so every result can be
computed inside a proof.
-/

namespace Phrasebook

/-- A binary64 number: `finite` stands for ± mantissa · 2^exponent. -/
inductive Binary64 where
  | nan
  | infinite (negative : Bool)
  | finite (negative : Bool) (mantissa : Nat) (exponent : Int)
  deriving DecidableEq, Repr

namespace Binary64

/-- The exponent of the smallest positive number. -/
def minExponent : Int := -1074

/-- The greatest exponent of a finite number. -/
def maxExponent : Int := 971

/-- Zero with a sign. -/
def zero (negative : Bool) : Binary64 := .finite negative 0 minExponent

/-- The quotient rounded to the nearest natural number, a tie to the even one. -/
def divEven (num den : Nat) : Nat :=
  let q := num / den
  let r := num % den
  if 2 * r < den then q
  else if den < 2 * r then q + 1
  else if q % 2 = 0 then q else q + 1

/-- `num / den` as a fraction of `2^e`. -/
def scale (num den : Nat) (e : Int) : Nat × Nat :=
  if 0 ≤ e then (num, den * Nat.pow 2 e.toNat) else (num * Nat.pow 2 (-e).toNat, den)

/-- The exponent that gives `num / den` a mantissa of 53 bits, or the least one. -/
def exponentFor (num den : Nat) : Int :=
  let k : Int := (Nat.log2 num : Int) - Nat.log2 den
  let e := k - 52
  let s := scale num den e
  let e := if s.1 < Nat.pow 2 52 * s.2 then e - 1 else e
  max e minExponent

/-- The number nearest to `± num / den`, in a tie the one with the even mantissa. -/
def round (negative : Bool) (num den : Nat) : Binary64 :=
  if num = 0 then zero negative
  else
    let e := exponentFor num den
    let s := scale num den e
    let m := divEven s.1 s.2
    let (m, e) := if m = Nat.pow 2 53 then (Nat.pow 2 52, e + 1) else (m, e)
    if maxExponent < e then .infinite negative else .finite negative m e

/-- The number nearest to `± digits · 10^exponent`. Exponents far outside the range are
answered without computing the power. -/
def ofDecimal (negative : Bool) (digits : Nat) (exponent : Int) : Binary64 :=
  let size : Int := (Text.ofNat digits).length
  if digits = 0 then zero negative
  else if 400 < size + exponent then .infinite negative
  else if size + exponent < -400 then zero negative
  else if 0 ≤ exponent then round negative (digits * Nat.pow 10 exponent.toNat) 1
  else round negative digits (Nat.pow 10 (-exponent).toNat)

/-- The number nearest to an integer. -/
def ofInt (i : Int) : Binary64 := round (i < 0) i.natAbs 1

/-- The magnitude as a fraction: the numerator, then the denominator. -/
def magnitude (mantissa : Nat) (exponent : Int) : Nat × Nat :=
  if 0 ≤ exponent then (mantissa * Nat.pow 2 exponent.toNat, 1)
  else (mantissa, Nat.pow 2 (-exponent).toNat)

/-- The value as a fraction, where it is finite. -/
def fraction? : Binary64 → Option (Int × Nat)
  | .finite negative m e =>
    let f := magnitude m e
    some (if negative then -(f.1 : Int) else f.1, f.2)
  | _ => none

/-- The integer part, cut toward zero, where the number is finite. -/
def truncate? (x : Binary64) : Option Int :=
  x.fraction?.map fun f => f.1.tdiv f.2

/-- The opposite number. -/
def neg : Binary64 → Binary64
  | .nan => .nan
  | .infinite s => .infinite (!s)
  | .finite s m e => .finite (!s) m e

/-- The product, rounded once. -/
def mul : Binary64 → Binary64 → Binary64
  | .finite s m e, .finite t n f =>
    let a := magnitude m e
    let b := magnitude n f
    round (s != t) (a.1 * b.1) (a.2 * b.2)
  | .nan, _ | _, .nan => .nan
  | .infinite s, .infinite t => .infinite (s != t)
  | .infinite s, .finite t n _ => if n = 0 then .nan else .infinite (s != t)
  | .finite s m _, .infinite t => if m = 0 then .nan else .infinite (s != t)

/-- The sum, rounded once. A sum of zero is positive unless both terms are negative. -/
def add : Binary64 → Binary64 → Binary64
  | .finite s m e, .finite t n f =>
    let a := magnitude m e
    let b := magnitude n f
    let x : Int := (if s then -1 else 1) * (a.1 * b.2 : Nat)
    let y : Int := (if t then -1 else 1) * (b.1 * a.2 : Nat)
    let sum := x + y
    if sum = 0 then zero (s && t) else round (sum < 0) sum.natAbs (a.2 * b.2)
  | .nan, _ | _, .nan => .nan
  | .infinite s, .infinite t => if s = t then .infinite s else .nan
  | .infinite s, _ | _, .infinite s => .infinite s

/-- Is the number greater than zero? -/
def isPositive : Binary64 → Bool
  | .nan => false
  | .infinite negative => !negative
  | .finite negative m _ => !negative && m != 0

/-- Equality of values: not a number differs from everything, and the zeros are equal. -/
def same : Binary64 → Binary64 → Bool
  | .infinite s, .infinite t => s == t
  | .finite s m e, .finite t n f =>
    let a := magnitude m e
    let b := magnitude n f
    (m == 0 && n == 0) || (s == t && a.1 * b.2 == b.1 * a.2)
  | _, _ => false

/-- Equality of values between a number and an integer, without rounding the integer. -/
def sameInt (x : Binary64) (i : Int) : Bool :=
  match x.fraction? with
  | some f => f.1 == i * f.2
  | none => false

end Binary64

end Phrasebook
