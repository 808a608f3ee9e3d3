import Phrasebook.Value
import Phrasebook.Yaml.Fault
import Phrasebook.Yaml.Tag

/-!
# Values of scalars

The value of a scalar follows from its tag. The form that gave a plain scalar its tag is no
condition here: a written tag stands in front of any text, and each kind of value has its
own idea of which texts spell one.
-/

namespace Phrasebook.Yaml

/-- An integer in some base. -/
def readInt (base : Nat) (s : Text) : Result Int :=
  match Number.int base s with
  | .ok i => .ok i
  | .error .notDigits => .error (.badInt base s)
  | .error (.tooLong digits) => .error (.longInt digits)

/-- The value of groups of sixty, the last group first. -/
def sexagesimal (groups : List Int) : Int := groups.foldr (fun g rest => g + 60 * rest) 0

/-- The integer that a scalar spells. -/
def intOf (text : Text) : Result Int := do
  let s := Text.without '_' text
  if s.isEmpty then throw .emptyNumber
  let (negative, s) := Number.sign s
  if s.isEmpty then throw .emptyNumber
  let i ← match s with
    | ['0'] => pure 0
    | '0' :: 'b' :: r => readInt 2 r
    | '0' :: 'x' :: r => readInt 16 r
    | '0' :: _ => readInt 8 s
    | _ =>
      if s.contains ':' then do
        let groups ← (Text.splitOn ':' s).mapM (readInt 10)
        pure (sexagesimal groups.reverse)
      else readInt 10 s
  return if negative then -i else i

/-- A floating point number in decimal. -/
def readFloat (s : Text) : Result Binary64 :=
  match Number.float? s with
  | some x => .ok x
  | none => .error (.badFloat s)

/-- The value of groups of sixty of floating point numbers, the last group first, given the
weight of that group and the sum of those behind it. Every weight has to be finite. -/
def sexagesimalFrom (weight : Int) (sum : Binary64) : List Binary64 → Result Binary64
  | [] => .ok sum
  | g :: gs =>
    match Binary64.ofInt weight with
    | .infinite _ => .error .manyGroups
    | w => sexagesimalFrom (weight * 60) (sum.add (g.mul w)) gs

/-- The value of groups of sixty of floating point numbers, the last group first. -/
def sexagesimalFloat (groups : List Binary64) : Result Binary64 :=
  sexagesimalFrom 1 (.zero false) groups

/-- The word for what is no number. -/
def nanWord : Text := ".nan".toList

/-- Does a scalar spell what is no number by its word? -/
def isNanWord (text : Text) : Bool :=
  (Number.sign (Text.lower (Text.without '_' text))).2 == nanWord

/-- The floating point number that a scalar spells. -/
def floatOf (text : Text) : Result Binary64 := do
  let s := Text.lower (Text.without '_' text)
  if s.isEmpty then throw .emptyNumber
  let (negative, s) := Number.sign s
  if s = nanWord then return .nan
  let x ← if s = ".inf".toList then pure (.infinite false)
    else if s.contains ':' then do
      let groups ← (Text.splitOn ':' s).mapM readFloat
      sexagesimalFloat groups.reverse
    else readFloat s
  return if negative then x.neg else x

/-- The truth value that a word stands for. -/
def boolOf (text : Text) : Result Bool :=
  let word := Text.lower text
  if ["yes".toList, "true".toList, "on".toList].contains word then .ok true
  else if ["no".toList, "false".toList, "off".toList].contains word then .ok false
  else .error (.badBool word)

/-- The number that some digits spell; none spell zero. -/
def number (ds : Text) : Nat := (Number.digits? 10 ds).getD 0

/-- The microseconds of the digits behind the point, of which six count. -/
def microseconds (ds : Text) : Nat :=
  let ds := ds.take 6
  number (ds ++ List.replicate (6 - ds.length) '0')

/-- The date or moment that a scalar spells. -/
def timestampOf (text : Text) : Result Value :=
  match Tag.stamp? text with
  | none => .error .badTimestamp
  | some t => do
    let date := Date.make (number t.year) (number t.month) (number t.day)
    match t.clock with
    | none => return .date (← date.mapError .calendar)
    | some (hour, minute, second, fraction) =>
      let offset := t.offset.map fun (west, hours, minutes) =>
        let seconds : Int := 3600 * number hours + 60 * number minutes
        if west then -seconds else seconds
      match offset with
      | some s => if s ≤ -86400 ∨ 86400 ≤ s then throw (.calendar (.offset s))
      | none => pure ()
      let moment := do
        Moment.make (← date) (number hour) (number minute) (number second)
          (microseconds fraction) offset
      return .moment (← moment.mapError .calendar)

/-- The value of a character in base 64. -/
def sextet? (c : Char) : Option Nat :=
  if 'A' ≤ c ∧ c ≤ 'Z' then some (c.toNat - 'A'.toNat)
  else if 'a' ≤ c ∧ c ≤ 'z' then some (c.toNat - 'a'.toNat + 26)
  else if '0' ≤ c ∧ c ≤ '9' then some (c.toNat - '0'.toNat + 52)
  else if c = '+' then some 62
  else if c = '/' then some 63
  else none

/-- The octets of a text in base 64, given the sextets of an unfinished group and the number
of padding signs seen in it. Other characters are passed over. -/
def base64From : List Nat → Nat → Text → Option (List Nat)
  | group, _, [] => if group.isEmpty then some [] else none
  | group, pads, c :: r =>
    if c = '=' then
      if 2 ≤ group.length ∧ 4 ≤ group.length + pads + 1 then some []
      else base64From group (if 2 ≤ group.length then pads + 1 else pads) r
    else
      match sextet? c, group with
      | none, _ => base64From group pads r
      | some x, [] => base64From [x] 0 r
      | some x, [a] => (base64From [a, x] 0 r).map ((a * 4 + x / 16) :: ·)
      | some x, [a, b] => (base64From [a, b, x] 0 r).map ((b % 16 * 16 + x / 4) :: ·)
      | some x, _ :: _ :: d :: _ => (base64From [] 0 r).map ((d % 4 * 64 + x) :: ·)

/-- The octets that a scalar spells in base 64. -/
def bytesOf (text : Text) : Result Value :=
  if text.all (·.toNat < 0x80) then
    match base64From [] 0 text with
    | some octets => .ok (.bytes (octets.map UInt8.ofNat))
    | none => .error .malformed
  else .error .malformed

/-- The value of a scalar with a tag. -/
def scalarOf (tag : Tag) (text : Text) : Result Value :=
  match tag with
  | .null => .ok .null
  | .bool => (fun b => .scalar (.bool b)) <$> boolOf text
  | .int => (fun i => .scalar (.int i)) <$> intOf text
  | .float => (fun x => .scalar (.float x)) <$> floatOf text
  | .str => .ok (.ofText text)
  | .timestamp => timestampOf text
  | .binary => bytesOf text
  | _ => .error .malformed

end Phrasebook.Yaml
