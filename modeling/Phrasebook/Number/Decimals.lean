import Phrasebook.Number.Binary64

/-!
# Decimals of a chosen length

A magnitude, given as a fraction, is written with a fixed number of decimals, with an
exponent and a fixed number of decimals, or with a fixed number of significant digits in the
shorter of the two ways. What does not fit is rounded to the nearest decimal, a tie to the
even one. The point is left out where nothing follows it, unless it is asked for.
-/

namespace Phrasebook

namespace Number

/-- Digits before and behind a point. -/
def withPoint (point : Bool) (whole behind : Text) : Text :=
  if behind.isEmpty && !point then whole else whole ++ '.' :: behind

/-- Digits without the zeros at their end. -/
def dropZeros (ds : Text) : Text := (ds.reverse.dropWhile (· == '0')).reverse

/-- A fraction with a fixed number of decimals. -/
def fixed (point : Bool) (places num den : Nat) : Text :=
  let ds := Text.padLeft (places + 1) (Text.ofNat (Binary64.divEven (num * Nat.pow 10 places) den))
  withPoint point (ds.take (ds.length - places)) (ds.drop (ds.length - places))

/-- The exponent of the first significant digit of a fraction that is not zero. -/
def leadingExponent (num den : Nat) : Int :=
  let guess : Int := (Text.ofNat num).length - (Text.ofNat den).length
  if den * Nat.pow 10 guess.toNat ≤ num * Nat.pow 10 (-guess).toNat then guess else guess - 1

/-- The first significant digits of a fraction, one more than `places`, and the exponent of
the first of them. Zero has the exponent zero. -/
def leadingDigits (places num den : Nat) : Text × Int :=
  if num = 0 then (List.replicate (places + 1) '0', 0)
  else
    let e := leadingExponent num den
    let shift := (places : Int) - e
    let n := Binary64.divEven (num * Nat.pow 10 shift.toNat) (den * Nat.pow 10 (-shift).toNat)
    if n = Nat.pow 10 (places + 1) then (Text.ofNat (Nat.pow 10 places), e + 1) else (Text.ofNat n, e)

/-- An exponent with its sign and at least two digits. -/
def exponentText (mark : Char) (e : Int) : Text :=
  mark :: (if e < 0 then '-' else '+') :: Text.padLeft 2 (Text.ofNat e.natAbs)

/-- A fraction with an exponent and a fixed number of decimals. -/
def scientific (point : Bool) (mark : Char) (places num den : Nat) : Text :=
  let (ds, e) := leadingDigits places num den
  withPoint point (ds.take 1) (ds.drop 1) ++ exponentText mark e

/-- A fraction with a number of significant digits. Zeros at the end are left out unless the
point is asked for. -/
def general (point : Bool) (mark : Char) (digits num den : Nat) : Text :=
  let digits := max digits 1
  let (ds, e) := leadingDigits (digits - 1) num den
  let shown (whole behind : Text) :=
    withPoint point whole (if point then behind else dropZeros behind)
  if e < -4 ∨ digits ≤ e then shown (ds.take 1) (ds.drop 1) ++ exponentText mark e
  else if e < 0 then shown ['0'] (List.replicate (-e - 1).toNat '0' ++ ds)
  else shown (ds.take (e.toNat + 1)) (ds.drop (e.toNat + 1))

end Number

end Phrasebook
