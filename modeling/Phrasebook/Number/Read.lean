import Phrasebook.Number.Binary64

/-!
# Reading numbers

Integers are read in a base from two to sixteen and floating point numbers in decimal.
Both allow white space around the number, a sign, and single underscores between digits;
anything else makes the text no number. The prefix that names the base, as in `0x`, may
stand before the digits. The decimal digits of every script are digits. Decimal integers
are read, and integers are written, only up to a number of digits; a base that is a power
of two has no such limit.
-/

namespace Phrasebook

namespace Number

/-- The value of a digit in bases up to sixteen. -/
def digit? (c : Char) : Option Nat :=
  if '0' ≤ c ∧ c ≤ '9' then some (c.toNat - '0'.toNat)
  else if 'a' ≤ c ∧ c ≤ 'f' then some (c.toNat - 'a'.toNat + 10)
  else if 'A' ≤ c ∧ c ≤ 'F' then some (c.toNat - 'A'.toNat + 10)
  else none

/-- A digit of the base. -/
def digitIn? (base : Nat) (c : Char) : Option Nat :=
  match digit? c with
  | some d => if d < base then some d else none
  | none => none

/-- The value of the digits behind a value, an underscore being allowed between two. -/
def digitsFrom (base value : Nat) : Text → Option Nat
  | [] => some value
  | '_' :: c :: r =>
    match digitIn? base c with
    | some d => digitsFrom base (value * base + d) r
    | none => none
  | c :: r =>
    match digitIn? base c with
    | some d => digitsFrom base (value * base + d) r
    | none => none

/-- The value of one or more digits. -/
def digits? (base : Nat) : Text → Option Nat
  | [] => none
  | c :: r =>
    match digitIn? base c with
    | some d => digitsFrom base d r
    | none => none

/-- The letter that names a base behind a zero. -/
def baseLetter (base : Nat) : Option Char :=
  if base = 2 then some 'b' else if base = 8 then some 'o' else if base = 16 then some 'x' else none

/-- The digits behind the prefix that names the base, if it is there. -/
def dropBase (base : Nat) (s : Text) : Text :=
  match s with
  | '0' :: c :: r =>
    if baseLetter base = some c.toLower then (match r with | '_' :: t => t | t => t) else s
  | _ => s

/-- A sign and the rest of the text. -/
def sign (s : Text) : Bool × Text :=
  match s with
  | '-' :: r => (true, r)
  | '+' :: r => (false, r)
  | r => (false, r)

/-- White space that may stand around a number: all of it but the four separators of
ASCII. -/
def isMargin (c : Char) : Bool := Text.isBlank c && !(0x1C ≤ c.toNat && c.toNat ≤ 0x1F)

/-- The text of a number without the white space around it, in plain digits. -/
def bare (s : Text) : Text := Text.plainDigits (Text.trimBy isMargin s)

/-- The number of digits up to which decimal integers are read and integers are written. -/
def maxDigits : Nat := 4300

/-- Why a text is no integer. -/
inductive IntFault where
  /-- It has other characters than the digits of its base, or an underscore out of place. -/
  | notDigits
  /-- It starts with too many digits. -/
  | tooLong (digits : Nat)
  deriving DecidableEq, Repr

/-- Do the digits at the front of a text decide that it is too long? What follows them does
not count then. -/
def isTooLong (base digits : Nat) : Bool := base == 10 && decide (maxDigits < digits)

/-- An integer with an optional sign in some base. -/
def int (base : Nat) (s : Text) : Except IntFault Int :=
  let (negative, r) := sign (bare s)
  let body := dropBase base r
  let run := body.takeWhile fun c => (digitIn? base c).isSome || c == '_'
  let size := (run.filter (· != '_')).length
  match digits? base run with
  | none => .error .notDigits
  | some n =>
    if isTooLong base size then .error (.tooLong size)
    else if run.length < body.length then .error .notDigits
    else .ok (if negative then -(n : Int) else n)

/-- The longest run of digits and underscores at the front, and what follows it. -/
def spanDigits (s : Text) : Text × Text :=
  (s.takeWhile fun c => c.isDigit || c == '_', s.dropWhile fun c => c.isDigit || c == '_')

/-- The exponent at the end of a decimal; no text stands for zero. -/
def exponent? : Text → Option Int
  | [] => some 0
  | c :: r =>
    if c = 'e' ∨ c = 'E' then
      let (negative, ds) := sign r
      (digits? 10 ds).map fun n => if negative then -(n : Int) else n
    else none

/-- Digits that may be missing, with their number. -/
def part? (s : Text) : Option (Nat × Nat) :=
  if s.isEmpty then some (0, 0)
  else (digits? 10 s).map fun n => (n, (Text.without '_' s).length)

/-- A decimal without its sign. -/
def decimal? (negative : Bool) (s : Text) : Option Binary64 :=
  let (whole, rest) := spanDigits s
  let (behind, rest) := match rest with
    | '.' :: r => spanDigits r
    | r => ([], r)
  if whole.isEmpty && behind.isEmpty then none
  else
    match part? whole, part? behind, exponent? rest with
    | some w, some b, some e =>
      some (.ofDecimal negative (w.1 * Nat.pow 10 b.2 + b.1) (e - b.2))
    | _, _, _ => none

/-- A floating point number with an optional sign. -/
def float? (s : Text) : Option Binary64 :=
  let (negative, r) := sign (bare s)
  let word := Text.lower r
  if word = "inf".toList ∨ word = "infinity".toList then some (.infinite negative)
  else if word = "nan".toList then some .nan
  else decimal? negative r

end Number

end Phrasebook
