import Phrasebook.Value

/-!
# Documents

A document is what a file says: numbered parts, each of which is a value of its own or a
collection of other parts. A part may stand in several collections, and a collection may
hold itself. `Document.unfold` is the value that is seen from a part; where a collection is
met inside itself, it is left folded. The texts of a part are those of its value, except
that not every part has one: lists can be nested too deeply, and integers can be too long.
-/

namespace Phrasebook

/-- The number of a part in its document. -/
abbrev PartId := Nat

/-- A part of a document. -/
inductive Part where
  /-- A value that is no collection. -/
  | leaf (v : Value)
  | list (items : List PartId)
  | pair (first second : PartId)
  | dict (entries : List (PartId × PartId))
  | set (members : List PartId)
  deriving Repr

instance : Inhabited Part := ⟨.leaf .null⟩

/-- Numbered parts, and the number of the one that stands for the whole. -/
structure Document where
  parts : Array Part
  root : PartId

/-- Why a part has no text. -/
inductive TextFault where
  /-- Its lists are nested too deeply, or without end. -/
  | tooDeep
  /-- It holds an integer with too many digits. -/
  | tooLong
  deriving DecidableEq, Repr

/-- The wording of a missing text. -/
def TextFault.message : TextFault → Text
  | .tooDeep => "maximum recursion depth exceeded".toList
  | .tooLong =>
    "Exceeds the limit (".toList ++ Text.ofNat Number.maxDigits ++
      " digits) for integer string conversion; ".toList ++
      "use sys.set_int_max_str_digits() to increase the limit".toList

/-- The name of the kind of a part. -/
def Part.kind : Part → Text
  | .leaf v => v.kind
  | .list _ => (Value.list []).kind
  | .pair _ _ => "tuple".toList
  | .dict _ => (Value.dict []).kind
  | .set _ => (Value.set []).kind

namespace Document

/-- The part with a number; numbers that are not in use stand for nothing. -/
def part (d : Document) (i : PartId) : Part := d.parts.getD i default

/-- The document of one leaf. -/
def ofLeaf (v : Value) : Document := ⟨#[.leaf v], 0⟩

/-! ## The document of a value -/

mutual

/-- Put the parts of a value behind others. Its own part is the last of them. -/
def addValue : Value → Array Part → Array Part
  | .list items, ps =>
    let (is, ps) := addValues items ps
    ps.push (.list is)
  | .pair a b, ps =>
    let ps := addValue a ps
    let first := ps.size - 1
    let ps := addValue b ps
    ps.push (.pair first (ps.size - 1))
  | .dict entries, ps =>
    let (es, ps) := addEntries entries ps
    ps.push (.dict es)
  | .set members, ps =>
    let (is, ps) := addValues members ps
    ps.push (.set is)
  | v, ps => ps.push (.leaf v)

/-- Put the parts of some values behind others; the numbers are those of the values. -/
def addValues : List Value → Array Part → List PartId × Array Part
  | [], ps => ([], ps)
  | v :: vs, ps =>
    let ps := addValue v ps
    let i := ps.size - 1
    let (is, ps) := addValues vs ps
    (i :: is, ps)

/-- Put the parts of some entries behind others. -/
def addEntries : List (Value × Value) → Array Part → List (PartId × PartId) × Array Part
  | [], ps => ([], ps)
  | (k, v) :: es, ps =>
    let ps := addValue k ps
    let key := ps.size - 1
    let ps := addValue v ps
    let value := ps.size - 1
    let (is, ps) := addEntries es ps
    ((key, value) :: is, ps)

end

/-- The document that a value is. -/
def ofValue (v : Value) : Document :=
  let parts := addValue v #[]
  ⟨parts, parts.size - 1⟩

/-! ## The value of a part -/

/-- The value seen from a part inside some open collections. Every step opens a collection
that is not open, so as many steps as there are parts are enough. -/
def unfoldIn (d : Document) : Nat → List PartId → PartId → Value
  | 0, _, _ => .null
  | n + 1, opened, i =>
    match d.part i with
    | .leaf v => v
    | .list items =>
      if opened.contains i then .listAgain else .list (items.map (unfoldIn d n (i :: opened)))
    | .pair a b => .pair (unfoldIn d n opened a) (unfoldIn d n opened b)
    | .dict entries =>
      if opened.contains i then .dictAgain
      else .dict (entries.map fun e =>
        (unfoldIn d n (i :: opened) e.1, unfoldIn d n (i :: opened) e.2))
    | .set members => .set (members.map (unfoldIn d n opened))

/-- The value seen from a part. A pair takes a step of its own. -/
def unfold (d : Document) (i : PartId) : Value := d.unfoldIn (2 * d.parts.size + 2) [] i

/-! ## The texts of a part -/

/-- The text that a function makes of a part's value. -/
def textBy (f : Value → Text) (d : Document) (i : PartId) : Except TextFault Text :=
  let v := d.unfold i
  if v.isTooLong then .error .tooLong else .ok (f v)

/-- The spelling of a part in a message. -/
def literal (d : Document) (i : PartId) : Except TextFault Text := d.textBy Value.literal i

/-- The spelling of a part that stands alone. -/
def spelling (d : Document) (i : PartId) : Except TextFault Text := d.textBy Value.spelling i

/-- The depth down to which nested lists have a wording. -/
def maxDepth : Nat := 325

/-- The wording of a part in a string, down to some depth of lists. -/
def wordingIn (d : Document) : Nat → PartId → Except TextFault Text
  | 0, _ => .error .tooDeep
  | n + 1, i =>
    match d.part i with
    | .list items => Text.joinWith Value.newLine <$> items.mapM (wordingIn d n)
    | .pair a b => Text.joinWith Value.newLine <$> [a, b].mapM (wordingIn d n)
    | _ => d.textBy Value.text i

/-- The wording of a part in a string: a list is its items on lines of their own. -/
def wording (d : Document) (i : PartId) : Except TextFault Text := d.wordingIn maxDepth i

/-- Is the part a text? -/
def isText (d : Document) (t : Text) (i : PartId) : Bool :=
  match d.part i with
  | .leaf v => v.same (.ofText t)
  | _ => false

end Document

end Phrasebook
