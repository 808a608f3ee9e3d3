import Phrasebook.Text.Quoted
import Phrasebook.Number.Read
import Phrasebook.Number.Shortest
import Phrasebook.Calendar

/-!
# Values

A scalar is what a field may hold: nothing, a truth value, a number or a text. A value is
what a language file may hold: scalars, lists, dictionaries and the other kinds of the
file format. Two texts are made of a value. `Value.text` is the wording that enters a
string: nothing is empty, truth values are in small letters, and a list is its items on
lines of their own. `Value.literal` is the spelling inside messages and inside the text of
a dictionary, where texts are quoted. A collection that was met inside itself is written
with dots for its contents.
-/

namespace Phrasebook

/-- A value that a field may hold. -/
inductive Scalar where
  | null
  | bool (b : Bool)
  | int (i : Int)
  | float (x : Binary64)
  | text (t : Text)
  deriving DecidableEq, Repr

namespace Scalar

/-- The wording of a scalar in a string. -/
def wording : Scalar → Text
  | .null => []
  | .bool b => if b then "true".toList else "false".toList
  | .int i => Text.ofInt i
  | .float x => plainLayout.write x
  | .text t => t

/-- The spelling of a scalar in a message. -/
def literal : Scalar → Text
  | .null => "None".toList
  | .bool b => if b then "True".toList else "False".toList
  | .int i => Text.ofInt i
  | .float x => plainLayout.write x
  | .text t => Text.quoted t

/-- A text counts as true unless it is `false` or `0`. -/
def textHolds (t : Text) : Bool :=
  let low := Text.lower t
  low == "true".toList || (low != "false".toList && low != "0".toList)

/-- Truth of a scalar. A number counts as true when its integer part is positive, so a half
does not; positive infinity does, and what is not a number does not. -/
def holds : Scalar → Bool
  | .null => false
  | .bool b => b
  | .int i => decide (0 < i)
  | .float x =>
    match x.truncate? with
    | some i => decide (0 < i)
    | none => x.isPositive
  | .text t => textHolds t

/-- The number that a truth value or an integer stands for. -/
def whole? : Scalar → Option Int
  | .bool b => some (if b then 1 else 0)
  | .int i => some i
  | _ => none

/-- Is the scalar an integer with more digits than are written? -/
def isTooLong : Scalar → Bool
  | .int i => decide (Nat.pow 10 Number.maxDigits ≤ i.natAbs)
  | _ => false

/-- Equality of scalars, with numbers compared by value: a truth value equals the number it
stands for, and an integer equals a float only if it is exactly that number. -/
def same (a b : Scalar) : Bool :=
  match a, b with
  | .null, .null => true
  | .text s, .text t => s == t
  | .float x, .float y => x.same y
  | .float x, s | s, .float x =>
    match s.whole? with
    | some i => x.sameInt i
    | none => false
  | s, t =>
    match s.whole?, t.whole? with
    | some i, some j => i == j
    | _, _ => false

end Scalar

/-- A value of a language file. -/
inductive Value where
  | scalar (s : Scalar)
  | list (items : List Value)
  | pair (first second : Value)
  | dict (entries : List (Value × Value))
  | set (members : List Value)
  | bytes (octets : List UInt8)
  | date (d : Date)
  | moment (m : Moment)
  /-- A list met inside itself. -/
  | listAgain
  /-- A dictionary met inside itself. -/
  | dictAgain
  deriving Repr

instance : Inhabited Value := ⟨.scalar .null⟩

namespace Value

/-- The text value. -/
def ofText (t : Text) : Value := .scalar (.text t)

/-- The value that stands for nothing. -/
def null : Value := .scalar .null

/-- The name of the kind of a value. -/
def kind : Value → Text
  | .scalar .null => "NoneType".toList
  | .scalar (.bool _) => "bool".toList
  | .scalar (.int _) => "int".toList
  | .scalar (.float _) => "float".toList
  | .scalar (.text _) => "str".toList
  | .list _ | .listAgain => "list".toList
  | .pair _ _ => "tuple".toList
  | .dict _ | .dictAgain => "dict".toList
  | .set _ => "set".toList
  | .bytes _ => "bytes".toList
  | .date _ => "date".toList
  | .moment _ => "datetime".toList

/-- An octet between quotes. -/
def octetLiteral (quote : Char) (b : UInt8) : Text :=
  let c := Char.ofNat b.toNat
  if c = quote ∨ c = '\x5c' then ['\x5c', c]
  else if c = '\t' then ['\x5c', 't']
  else if c = '\n' then ['\x5c', 'n']
  else if c = '\r' then ['\x5c', 'r']
  else if 0x20 ≤ b ∧ b < 0x7F then [c]
  else '\x5c' :: 'x' :: Text.hex 2 b.toNat

/-- Octets between quotes, with the quote chosen as for a text. -/
def bytesLiteral (octets : List UInt8) : Text :=
  let quote := Text.quoteFor (octets.map fun b => Char.ofNat b.toNat)
  'b' :: quote :: octets.flatMap (octetLiteral quote) ++ [quote]

mutual

/-- The spelling of a value in a message. -/
def literal : Value → Text
  | .scalar s => s.literal
  | .list items => '[' :: Text.joinWith ", ".toList (literals items) ++ [']']
  | .pair a b => '(' :: literal a ++ ", ".toList ++ literal b ++ [')']
  | .dict entries => '{' :: Text.joinWith ", ".toList (entryLiterals entries) ++ ['}']
  | .set members =>
    if members.isEmpty then "set()".toList
    else '{' :: Text.joinWith ", ".toList (literals members) ++ ['}']
  | .bytes octets => bytesLiteral octets
  | .date d => d.literal
  | .moment m => m.literal
  | .listAgain => "[...]".toList
  | .dictAgain => "\x7b...\x7d".toList

/-- The spellings of the items of a list. -/
def literals : List Value → List Text
  | [] => []
  | v :: vs => literal v :: literals vs

/-- The spellings of the entries of a dictionary. -/
def entryLiterals : List (Value × Value) → List Text
  | [] => []
  | (k, v) :: es => (literal k ++ ':' :: ' ' :: literal v) :: entryLiterals es

end

/-- The spelling of a value that stands alone: a text is not quoted, and a date is written
plainly. -/
def spelling : Value → Text
  | .scalar (.text t) => t
  | .date d => d.write
  | .moment m => m.write
  | v => v.literal

/-- The separator of the lines of a string. -/
def newLine : Text := ['\n']

mutual

/-- The wording of a value in a string; a list is its items on lines of their own. -/
def text : Value → Text
  | .scalar s => s.wording
  | .list items => Text.joinWith newLine (texts items)
  | .pair a b => text a ++ newLine ++ text b
  | .date d => d.write
  | .moment m => m.write
  | .dict entries => literal (.dict entries)
  | .set members => literal (.set members)
  | .bytes octets => literal (.bytes octets)
  | .listAgain => literal .listAgain
  | .dictAgain => literal .dictAgain

/-- The wordings of the items of a list. -/
def texts : List Value → List Text
  | [] => []
  | v :: vs => text v :: texts vs

end

mutual

/-- Equality of values, with numbers compared by value. -/
def same : Value → Value → Bool
  | .scalar s, .scalar t => s.same t
  | .list xs, .list ys => sameAll xs ys
  | .pair a b, .pair c d => same a c && same b d
  | .bytes xs, .bytes ys => xs == ys
  | .date d, .date e => d == e
  | .moment m, .moment n => m.same n
  | _, _ => false

/-- Equality of lists of values. -/
def sameAll : List Value → List Value → Bool
  | [], [] => true
  | x :: xs, y :: ys => same x y && sameAll xs ys
  | _, _ => false

end

mutual

/-- Does the value hold an integer with more digits than are written? -/
def isTooLong : Value → Bool
  | .scalar s => s.isTooLong
  | .list items => anyTooLong items
  | .pair a b => isTooLong a || isTooLong b
  | .dict entries => anyEntryTooLong entries
  | .set members => anyTooLong members
  | _ => false

/-- Does one of some values? -/
def anyTooLong : List Value → Bool
  | [] => false
  | v :: vs => isTooLong v || anyTooLong vs

/-- Does a key or value of some entries? -/
def anyEntryTooLong : List (Value × Value) → Bool
  | [] => false
  | (k, v) :: es => isTooLong k || isTooLong v || anyEntryTooLong es

end

/-- The lines of a string. -/
def lines (t : Text) : List Text := Text.splitOn '\n' t

end Value

end Phrasebook
