import Phrasebook.Text.Basic

/-!
# Tags and the forms of plain scalars

A tag says what kind of value a node stands for. Where none is written, a plain scalar has
the tag of the first form that it matches: truth values, numbers with or without a point,
the merge sign, nothing, a date, the value sign, or one of three signs that stand for no
value; any other is text. Integers are written in four bases or in groups of sixty, with
underscores anywhere behind the first digit.
-/

namespace Phrasebook.Yaml

/-- The kinds of values that a tag can name. -/
inductive Tag where
  | null | bool | int | float | binary | timestamp | omap | pairs | set | str | seq | map
  | merge | value
  /-- A tag that stands for no kind of value. -/
  | unknown
  deriving DecidableEq, Repr

namespace Tag

/-- What the tags of the standard kinds start with. -/
def space : Text := "tag:yaml.org,2002:".toList

/-- The standard kinds with their names. -/
def standard : List (Text × Tag) :=
  [("null".toList, null), ("bool".toList, bool), ("int".toList, int), ("float".toList, float),
   ("binary".toList, binary), ("timestamp".toList, timestamp), ("omap".toList, omap),
   ("pairs".toList, pairs), ("set".toList, set), ("str".toList, str), ("seq".toList, seq),
   ("map".toList, map), ("merge".toList, merge), ("value".toList, value)]

/-- The kind that a full tag names. -/
def ofText (t : Text) : Tag :=
  if space.isPrefixOf t then (standard.lookup (t.drop space.length)).getD unknown else unknown

/-- Does the tag name a kind of scalar? -/
def isScalar : Tag → Bool
  | null | bool | int | float | binary | timestamp | str => true
  | _ => false

/-- Digits and underscores. -/
def isDigits (s : Text) : Bool := s.all fun c => c.isDigit || c == '_'

/-- A digit, then digits and underscores. -/
def isNumber : Text → Bool
  | [] => false
  | c :: r => c.isDigit && isDigits r

/-- The text behind a sign, if there is one. -/
def dropSign : Text → Text
  | '-' :: r => r
  | '+' :: r => r
  | r => r

/-- A group below sixty, with one digit or two. -/
def isSixtieth : Text → Bool
  | [a] => a.isDigit
  | [a, b] => '0' ≤ a && a ≤ '5' && b.isDigit
  | _ => false

/-- Groups of sixty behind a number. -/
def isSexagesimal (first : Text → Bool) (s : Text) : Bool :=
  match Text.splitOn ':' s with
  | a :: b :: groups => first a && (b :: groups).all isSixtieth
  | _ => false

/-- A decimal without a zero in front, unless it is zero. -/
def isDecimal : Text → Bool
  | ['0'] => true
  | c :: r => '1' ≤ c && c ≤ '9' && isDigits r
  | [] => false

/-- The form of an integer behind its sign. -/
def isInt (s : Text) : Bool :=
  let digitsIn (p : Char → Bool) (r : Text) := !r.isEmpty && r.all fun c => p c || c == '_'
  match s with
  | '0' :: 'b' :: r => digitsIn (fun c => c == '0' || c == '1') r
  | '0' :: 'x' :: r =>
    digitsIn (fun c => c.isDigit || ('a' ≤ c && c ≤ 'f') || ('A' ≤ c && c ≤ 'F')) r
  | '0' :: c :: r => digitsIn (fun c => '0' ≤ c && c ≤ '7') (c :: r)
  | s => isDecimal s || isSexagesimal (fun a => isDecimal a && a != ['0']) s

/-- An exponent with its sign, or nothing. -/
def isExponent : Text → Bool
  | [] => true
  | e :: sign :: c :: r =>
    (e == 'e' || e == 'E') && (sign == '-' || sign == '+') && c.isDigit && r.all Char.isDigit
  | _ => false

/-- The text behind the first point and before it. -/
def splitPoint (s : Text) : Option (Text × Text) :=
  match s.dropWhile (· != '.') with
  | _ :: r => some (s.takeWhile (· != '.'), r)
  | [] => none

/-- The form of a number with a point. -/
def isFloat (s : Text) : Bool :=
  let t := dropSign s
  match splitPoint t with
  | none => false
  | some (whole, rest) =>
    let tail := rest.dropWhile fun c => c.isDigit || c == '_'
    if whole.isEmpty then
      ["inf".toList, "Inf".toList, "INF".toList].contains rest ||
        (s == t && (["nan".toList, "NaN".toList, "NAN".toList].contains rest ||
          ((rest.head?.map Char.isDigit) == some true && isExponent tail)))
    else (isNumber whole && isExponent tail) || (isSexagesimal isNumber whole && tail.isEmpty)

/-- The text without the line break at its end, if there is text before it. -/
def dropBreak (s : Text) : Text := if s.getLast? = some '\n' ∧ s ≠ ['\n'] then s.dropLast else s

/-- One or two digits at the front, and the rest. -/
def shortNumber? : Text → Option (Text × Text)
  | a :: b :: r =>
    if a.isDigit then some (if b.isDigit then ([a, b], r) else ([a], b :: r)) else none
  | [a] => if a.isDigit then some ([a], []) else none
  | [] => none

/-- Two digits at the front, and the rest. -/
def twoDigits? : Text → Option (Text × Text)
  | a :: b :: r => if a.isDigit && b.isDigit then some ([a, b], r) else none
  | _ => none

/-- A character at the front, and the rest. -/
def skip? (c : Char) : Text → Option Text
  | d :: r => if d = c then some r else none
  | [] => none

/-- The parts of a written date or moment. -/
structure Stamp where
  year : Text
  month : Text
  day : Text
  /-- Hour, minute, second and the digits behind the point. -/
  clock : Option (Text × Text × Text × Text) := none
  /-- Whether the offset is west of universal time, its hours and its minutes. -/
  offset : Option (Bool × Text × Text) := none

/-- An offset at the end of a moment: nothing, `Z`, or a sign with hours and minutes. -/
def stampOffset? (s : Text) : Option (Option (Bool × Text × Text)) :=
  match s.dropWhile fun c => c == ' ' || c == '\t' with
  | [] => if s.isEmpty then some none else none
  | ['Z'] => some (some (false, [], []))
  | sign :: r =>
    if sign = '-' ∨ sign = '+' then do
      let (hours, r) ← shortNumber? r
      match r with
      | [] => return some (sign == '-', hours, [])
      | ':' :: r => do
        let (minutes, r) ← twoDigits? r
        if r.isEmpty then return some (sign == '-', hours, minutes) else none
      | _ => none
    else none

/-- The clock behind a date. -/
def stampClock? (s : Text) : Option (Text × Text × Text × Text × Text) := do
  let (hour, s) ← shortNumber? s
  let (minute, s) ← twoDigits? (← skip? ':' s)
  let (second, s) ← twoDigits? (← skip? ':' s)
  match s with
  | '.' :: r => return (hour, minute, second, r.takeWhile Char.isDigit, r.dropWhile Char.isDigit)
  | s => return (hour, minute, second, [], s)

/-- What stands between a date and a clock: a letter, or white space. -/
def skipGap? (s : Text) : Option Text :=
  match s with
  | 'T' :: r => some r
  | 't' :: r => some r
  | c :: r =>
    if c = ' ' ∨ c = '\t' then some (r.dropWhile fun c => c == ' ' || c == '\t') else none
  | [] => none

/-- A date, with a clock and an offset or without. A line break may follow it. -/
def stamp? (text : Text) : Option Stamp := do
  let (century, s) ← twoDigits? (dropBreak text)
  let (year, s) ← twoDigits? s
  let (month, s) ← shortNumber? (← skip? '-' s)
  let (day, s) ← shortNumber? (← skip? '-' s)
  if s.isEmpty then return { year := century ++ year, month, day }
  let (hour, minute, second, fraction, s) ← stampClock? (← skipGap? s)
  let offset ← stampOffset? s
  return { year := century ++ year, month, day
           clock := some (hour, minute, second, fraction), offset }

/-- The form of a date or moment. A date alone has two digits for month and day. -/
def isTimestamp (s : Text) : Bool :=
  match stamp? s with
  | none => false
  | some t => t.clock.isSome || (t.month.length == 2 && t.day.length == 2)

/-- The words for truth values. -/
def boolWords : List Text :=
  ["yes", "Yes", "YES", "no", "No", "NO", "true", "True", "TRUE", "false", "False", "FALSE",
   "on", "On", "ON", "off", "Off", "OFF"].map String.toList

/-- The words for nothing. -/
def nullWords : List Text := ["~", "null", "Null", "NULL", ""].map String.toList

/-- The tag that the form of a scalar gives it. A line break at its end is no part of the
form. -/
def ofForm (text : Text) : Tag :=
  let s := dropBreak text
  if boolWords.contains s then bool
  else if isFloat s then float
  else if isInt (dropSign s) then int
  else if s = ['<', '<'] then merge
  else if nullWords.contains s then null
  else if isTimestamp s then timestamp
  else if s = ['='] then value
  else if s = ['!'] ∨ s = ['&'] ∨ s = ['*'] then unknown
  else str

end Tag

end Phrasebook.Yaml
