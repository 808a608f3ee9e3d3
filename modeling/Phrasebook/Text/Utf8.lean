import Phrasebook.Text.Basic

/-!
# Octets as text

Files are octets in UTF-8. A file that is not well formed is refused with the first stretch
of octets that stands for no character and the reason for it: an octet that starts no
character, a character that is not continued as it must be, or the end of the file inside
a character. Line breaks of every system are read as line feeds.
-/

namespace Phrasebook.Text

/-- Why octets stand for no character. -/
inductive Utf8Reason where
  | badStart
  | badContinuation
  | cutShort
  deriving DecidableEq, Repr

/-- Octets that stand for no character: where they are, the first of them, how many they
are, and the reason. -/
structure Utf8Fault where
  position : Nat
  octet : UInt8
  count : Nat
  reason : Utf8Reason
  deriving DecidableEq, Repr

/-- The wording of a fault. -/
def Utf8Fault.message (f : Utf8Fault) : Text :=
  let subject :=
    if f.count = 1 then
      "byte 0x".toList ++ hex 2 f.octet.toNat ++ " in position ".toList ++ ofNat f.position
    else
      "bytes in position ".toList ++ ofNat f.position ++ '-' :: ofNat (f.position + f.count - 1)
  "'utf-8' codec can't decode ".toList ++ subject ++ ": ".toList ++
    match f.reason with
    | .badStart => "invalid start byte".toList
    | .badContinuation => "invalid continuation byte".toList
    | .cutShort => "unexpected end of data".toList

/-- The number of octets behind the first one, and the range of the second octet. -/
def utf8Shape? (b : UInt8) : Option (Nat × UInt8 × UInt8) :=
  if b < 0x80 then some (0, 0x80, 0xBF)
  else if b < 0xC2 then none
  else if b < 0xE0 then some (1, 0x80, 0xBF)
  else if b = 0xE0 then some (2, 0xA0, 0xBF)
  else if b = 0xED then some (2, 0x80, 0x9F)
  else if b < 0xF0 then some (2, 0x80, 0xBF)
  else if b = 0xF0 then some (3, 0x90, 0xBF)
  else if b < 0xF4 then some (3, 0x80, 0xBF)
  else if b = 0xF4 then some (3, 0x80, 0x8F)
  else none

/-- Check the continuation of a character whose first octets were good. -/
def utf8Continue (position : Nat) (octet : UInt8) :
    Nat → Nat → UInt8 → UInt8 → List UInt8 → Option Utf8Fault
  | 0, _, _, _, _ => none
  | _ + 1, good, _, _, [] => some ⟨position, octet, good, .cutShort⟩
  | n + 1, good, low, high, b :: rest =>
    if low ≤ b ∧ b ≤ high then utf8Continue position octet n (good + 1) 0x80 0xBF rest
    else some ⟨position, octet, good, .badContinuation⟩

/-- The first octets that stand for no character. -/
def utf8Fault? (position skip : Nat) : List UInt8 → Option Utf8Fault
  | [] => none
  | b :: rest =>
    match skip with
    | k + 1 => utf8Fault? (position + 1) k rest
    | 0 =>
      match utf8Shape? b with
      | none => some ⟨position, b, 1, .badStart⟩
      | some (n, low, high) =>
        match utf8Continue position b n 1 low high rest with
        | some f => some f
        | none => utf8Fault? (position + 1) n rest

/-- The text with every line break as a line feed. -/
def unifyBreaks : Text → Text
  | [] => []
  | '\r' :: '\n' :: r => '\n' :: unifyBreaks r
  | '\r' :: r => '\n' :: unifyBreaks r
  | c :: r => c :: unifyBreaks r

/-- The text that octets stand for. -/
def ofUtf8 (octets : ByteArray) : Except Utf8Fault Text :=
  match String.fromUTF8? octets with
  | some s => .ok (unifyBreaks s.toList)
  | none =>
    .error ((utf8Fault? 0 0 octets.toList).getD ⟨0, 0, 1, .badStart⟩)

end Phrasebook.Text
