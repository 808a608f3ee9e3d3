import Phrasebook.Document
import Phrasebook.Yaml.Leaf
import Phrasebook.Yaml.Merge

/-!
# The document of a source

Nodes become the parts of a document by their tags, each node one part under its own number.
A scalar gets its value where it is met. A collection is empty at first and waits; it is
filled after those that were met before it, so that it may hold itself and the faults of a
source are met level by level. The entries of a mapping are written one after the other, a
later one over an earlier one with an equal key. A key has to be a value of its own, which a
collection is not, whatever it holds.
-/

namespace Phrasebook.Yaml

/-- What a node is by a tag that is no collection's. A mapping has the text of its value sign,
but no mapping stands for a date or moment. -/
def Nodes.leaf (ns : Nodes) (i : NodeId) (tag : Tag) : Result Value := do
  if !tag.isScalar then throw .malformed
  let text ← ns.scalarText Nodes.maxValueSigns i
  if tag = .timestamp && ns.isMapping i then throw .mappedTimestamp
  scalarOf tag text

/-- A document while it is built. -/
structure Builder where
  nodes : Nodes
  parts : Array (Option Part)
  /-- The collections that are not filled yet, the newest first. -/
  waiting : List NodeId := []

/-- An action on a document that is built. -/
abbrev Building := StateT Builder (Except Fault)

namespace Building

/-- Put a part under a number. -/
def put (i : PartId) (p : Part) : Building Unit :=
  modify fun b => { b with parts := b.parts.setIfInBounds i (some p) }

/-- Put a part under a new number. -/
def push (p : Part) : Building PartId := do
  let i := (← get).parts.size
  modify fun b => { b with parts := b.parts.push (some p) }
  return i

/-- The part under a number. -/
def part? (i : PartId) : Building (Option Part) := do
  return ((← get).parts[i]?).join

/-- The node with a number. -/
def node (i : NodeId) : Building Node := do
  return (← get).nodes.node i

/-- Put an empty collection under a number and let it wait. -/
def wait (i : NodeId) (p : Part) : Building Unit := do
  put i p
  modify fun b => { b with waiting := i :: b.waiting }

/-- Make the part of a node, unless it was made before. -/
def make (i : NodeId) : Building Unit := do
  if (← part? i).isSome then return
  match (← node i).tag with
  | .seq | .omap | .pairs => wait i (.list [])
  | .map => wait i (.dict [])
  | .set => wait i (.set [])
  | tag => do
    let nodes := (← get).nodes
    put i (.leaf (← nodes.leaf i tag))

/-- Are two keys of a dictionary one? What is no number is one key with itself, and its word
stands for the same wherever it is written. -/
def sameKey (k l : NodeId) : Building Bool := do
  match ← part? k, ← part? l with
  | some (.leaf v), some (.leaf w) =>
    let nodes := (← get).nodes
    let isNan (i : NodeId) (v : Value) : Bool :=
      v matches .scalar (.float .nan) &&
        (match nodes.scalarText Nodes.maxValueSigns i with
          | .ok text => isNanWord text
          | .error _ => false)
    return k == l || v.same w || (isNan k v && isNan l w)
  | _, _ => return false

/-- Write an entry over an equal key, or behind the others. -/
def putEntry (key value : NodeId) : List (NodeId × NodeId) → Building (List (NodeId × NodeId))
  | [] => return [(key, value)]
  | (k, v) :: rest => do
    if ← sameKey k key then return (k, value) :: rest
    else return (k, v) :: (← putEntry key value rest)

/-- May the part of a node be a key? -/
def canBeKey (i : NodeId) : Building Bool := do
  return (← part? i) matches some (.leaf _)

/-- The entries of a mapping, whose merge signs bring in others. -/
def entriesOf (i : NodeId) : Building (List (NodeId × NodeId)) := do
  match (← get).nodes.flatten i with
  | none => throw .malformed
  | some nodes => do
    modify fun b => { b with nodes }
    (nodes.entries i).foldlM (fun entries e => do
      make e.1
      if !(← canBeKey e.1) then throw .malformed
      make e.2
      putEntry e.1 e.2 entries) []

/-- The pair that a mapping of one entry is. -/
def pairOf (i : NodeId) : Building PartId := do
  match ← node i with
  | .mapping _ [(k, v)] => do
    make k
    make v
    push (.pair k v)
  | _ => throw .malformed

/-- Fill a collection. Its node has to be of the sort that its tag says. -/
def fill (i : NodeId) : Building Unit := do
  match ← node i with
  | .sequence .seq items => do
    items.forM make
    put i (.list items)
  | .sequence .omap items | .sequence .pairs items => do put i (.list (← items.mapM pairOf))
  | .mapping .map _ => do put i (.dict (← entriesOf i))
  | .mapping .set _ => do put i (.set ((← entriesOf i).map Prod.fst))
  | _ => throw .malformed

/-- Fill the collections that wait, then those that wait by then. Every node waits once, so
as many rounds as there are nodes are enough. -/
def fillAll : Nat → Building Unit
  | 0 => return
  | n + 1 => do
    let waiting := (← get).waiting.reverse
    if waiting.isEmpty then return
    modify fun b => { b with waiting := [] }
    waiting.forM fill
    fillAll n

/-- The document with a root. -/
def document (root : NodeId) : Building Document := do
  make root
  fillAll ((← get).nodes.size + 1)
  return { parts := (← get).parts.map fun p => p.getD default, root }

end Building

/-- The document of a source. A source without one stands for nothing. -/
def load (source : Text) : Result Document := do
  match ← Nodes.ofTokens (tokens source) with
  | none => return .ofLeaf .null
  | some (root, nodes) =>
    let b : Builder := { nodes, parts := Array.replicate nodes.size none }
    (Building.document root).run' b

end Phrasebook.Yaml
