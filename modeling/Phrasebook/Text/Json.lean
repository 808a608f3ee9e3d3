import Phrasebook.Value

/-!
# Interchange text

Objects of log lines and segments are written on one line in the interchange notation,
with a space behind every comma and colon. Inside texts only the quote, the backslash and
the controls below the space are escaped; every other character stands for itself.
-/

namespace Phrasebook

/-- A value in the interchange notation. -/
inductive Json where
  | null
  | bool (b : Bool)
  | int (i : Int)
  | float (x : Binary64)
  | text (t : Text)
  | list (items : List Json)
  | object (members : List (Text × Json))

namespace Json

/-- A character inside a text. -/
def escape (c : Char) : Text :=
  if c = '"' ∨ c = '\x5c' then ['\x5c', c]
  else if c = '\n' then ['\x5c', 'n']
  else if c = '\r' then ['\x5c', 'r']
  else if c = '\t' then ['\x5c', 't']
  else if c = '\x08' then ['\x5c', 'b']
  else if c = '\x0c' then ['\x5c', 'f']
  else if c.toNat < 0x20 then '\x5c' :: 'u' :: Text.hex 4 c.toNat
  else [c]

/-- A text between quotes. -/
def writeText (t : Text) : Text := '"' :: t.flatMap escape ++ ['"']

/-- The separator of items. -/
def comma : Text := [',', ' ']

mutual

/-- The notation of a value. -/
def write : Json → Text
  | null => "null".toList
  | bool b => if b then "true".toList else "false".toList
  | int i => Text.ofInt i
  | float x => jsonLayout.write x
  | text t => writeText t
  | list items => '[' :: Text.joinWith comma (writeAll items) ++ [']']
  | object members => '{' :: Text.joinWith comma (writeMembers members) ++ ['}']

/-- The notations of the items of a list. -/
def writeAll : List Json → List Text
  | [] => []
  | j :: js => write j :: writeAll js

/-- The notations of the members of an object. -/
def writeMembers : List (Text × Json) → List Text
  | [] => []
  | (k, j) :: ms => (writeText k ++ ':' :: ' ' :: write j) :: writeMembers ms

end

mutual

/-- A value as interchange notation has it. What has no counterpart is written as text. -/
def ofValue : Value → Json
  | .scalar .null => null
  | .scalar (.bool b) => bool b
  | .scalar (.int i) => int i
  | .scalar (.float x) => float x
  | .scalar (.text t) => text t
  | .list items => list (ofValues items)
  | .pair a b => list [ofValue a, ofValue b]
  | .dict entries => object (ofEntries entries)
  | .set members => list (ofValues members)
  | v => text v.text

/-- The items of a list. -/
def ofValues : List Value → List Json
  | [] => []
  | v :: vs => ofValue v :: ofValues vs

/-- The entries of a dictionary, under the wordings of their keys. -/
def ofEntries : List (Value × Value) → List (Text × Json)
  | [] => []
  | (k, v) :: es => (k.text, ofValue v) :: ofEntries es

end

end Json

end Phrasebook
