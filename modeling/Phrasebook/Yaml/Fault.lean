import Phrasebook.Calendar
import Phrasebook.Number.Read
import Phrasebook.Text.Quoted

/-!
# Faults of a source

Why a source has no document. It can be refused as a whole, which `malformed` says without
a reason, or it can hold something that is well formed and has no value: an escape for a
character that does not exist, or a scalar of a form that its tag does not allow.
-/

namespace Phrasebook.Yaml

/-- Why a source has no document. -/
inductive Fault where
  /-- The source is not well formed. -/
  | malformed
  /-- Its collections are nested too deeply, or a scalar refers to itself. -/
  | tooDeep
  /-- An escape names a character that does not exist. -/
  | noCharacter
  /-- An escape names a character by a number that does not fit into 31 bits. -/
  | hugeCharacter
  /-- A number is written with other characters than its base has. -/
  | badInt (base : Nat) (text : Text)
  /-- A number has more digits than can be read. -/
  | longInt (digits : Nat)
  | badFloat (text : Text)
  /-- A number has so many groups of sixty that the first one has no weight. -/
  | manyGroups
  /-- A number has no characters. -/
  | emptyNumber
  | badBool (text : Text)
  | badTimestamp
  /-- A mapping stands for a date or moment. -/
  | mappedTimestamp
  | calendar (fault : CalendarFault)
  deriving DecidableEq, Repr

/-- The length up to which a text is shown that is no integer. -/
def shownLength : Nat := 200

/-- The wording of a fault. -/
def Fault.message : Fault → Text
  | .malformed => "<yaml error>".toList
  | .tooDeep => "maximum recursion depth exceeded".toList
  | .noCharacter => "chr() arg not in range(0x110000)".toList
  | .hugeCharacter => "Python int too large to convert to C int".toList
  | .badInt base text =>
    "invalid literal for int() with base ".toList ++ Text.ofNat base ++ ": ".toList ++
      (Text.quoted text).take shownLength
  | .longInt digits =>
    "Exceeds the limit (".toList ++ Text.ofNat Number.maxDigits ++
      " digits) for integer string conversion: value has ".toList ++ Text.ofNat digits ++
      " digits; use sys.set_int_max_str_digits() to increase the limit".toList
  | .badFloat text => "could not convert string to float: ".toList ++ Text.quoted text
  | .manyGroups => "int too large to convert to float".toList
  | .emptyNumber => "string index out of range".toList
  | .badBool text => Text.quoted text
  | .badTimestamp => "'NoneType' object has no attribute 'groupdict'".toList
  | .mappedTimestamp => "expected string or bytes-like object, got 'list'".toList
  | .calendar f => f.message

/-- A value of a part of a source, or the fault that it has none. -/
abbrev Result (α : Type) := Except Fault α

end Phrasebook.Yaml
