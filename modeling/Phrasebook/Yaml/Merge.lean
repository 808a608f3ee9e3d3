import Phrasebook.Yaml.Node

/-!
# Merge signs

A mapping can bring in the entries of other mappings behind a merge sign. Before its entries
are used a mapping is flattened: each merge sign is taken away, the entries that it brings
in are put in front of the mapping's own, and a value sign that is a key becomes plain text.
Flattening changes the nodes for good, also those that a merge sign refers to, so what a node
says can depend on which mappings were flattened before. A mapping may bring itself in: by
then the sign is gone, so that flattening comes to an end.
-/

namespace Phrasebook.Yaml

namespace Nodes

/-- The node with a number; numbers that are not in use are empty scalars. -/
def node (ns : Nodes) (i : NodeId) : Node := ns.getD i default

/-- The entries of a mapping; other nodes have none. -/
def entries (ns : Nodes) (i : NodeId) : List (NodeId × NodeId) :=
  match ns.node i with
  | .mapping _ es => es
  | _ => []

/-- Is the node a mapping? -/
def isMapping (ns : Nodes) (i : NodeId) : Bool :=
  match ns.node i with
  | .mapping _ _ => true
  | _ => false

/-- Give a mapping other entries. -/
def setEntries (ns : Nodes) (i : NodeId) (es : List (NodeId × NodeId)) : Nodes :=
  match ns.node i with
  | .mapping tag _ => ns.setIfInBounds i (.mapping tag es)
  | _ => ns

/-- Make plain text of a node if it is a value sign. -/
def plainKey (ns : Nodes) (i : NodeId) : Nodes :=
  match ns.node i with
  | .scalar .value text => ns.setIfInBounds i (.scalar .str text)
  | .sequence .value items => ns.setIfInBounds i (.sequence .str items)
  | .mapping .value es => ns.setIfInBounds i (.mapping .str es)
  | _ => ns

/-- What stands behind the first merge sign of some entries, and the other entries. -/
def takeMerge? (ns : Nodes) : List (NodeId × NodeId) → Option (NodeId × List (NodeId × NodeId))
  | [] => none
  | (k, v) :: es =>
    if (ns.node k).tag = .merge then some (v, es)
    else (takeMerge? ns es).map fun (source, rest) => (source, (k, v) :: rest)

/-- The number of entries of all mappings. -/
def entryCount (ns : Nodes) : Nat := ns.foldl (fun n node => n + match node with
  | .mapping _ es => es.length
  | _ => 0) 0

mutual

/-- Flatten a mapping whose merge signs have brought in some entries so far. Two steps take
one merge sign away, and none is ever put in. -/
def flattenFrom (i : NodeId) (brought : List (NodeId × NodeId)) : Nat → Nodes → Option Nodes
  | 0, _ => none
  | n + 1, ns =>
    match ns.takeMerge? (ns.entries i) with
    | none =>
      let own := ns.entries i
      some ((own.foldl (fun ns e => ns.plainKey e.1) ns).setEntries i (brought ++ own))
    | some (source, rest) => do
      let (es, ns) ← bringIn source n (ns.setEntries i rest)
      flattenFrom i (brought ++ es) n ns

/-- The entries that a node behind a merge sign brings in: those of a mapping, or those of the
mappings of a list, the last of them first. -/
def bringIn (source : NodeId) : Nat → Nodes → Option (List (NodeId × NodeId) × Nodes)
  | 0, _ => none
  | n + 1, ns =>
    match ns.node source with
    | .mapping _ _ => do
      let ns ← flattenFrom source [] n ns
      return (ns.entries source, ns)
    | .sequence _ items =>
      items.foldlM (fun (es, ns) item => do
        if ns.isMapping item then
          let ns ← flattenFrom item [] n ns
          return (ns.entries item ++ es, ns)
        else none) ([], ns)
    | .scalar _ _ => none

end

/-- Flatten a mapping. There is no way to if something else than mappings stands behind a
merge sign. -/
def flatten (ns : Nodes) (i : NodeId) : Option Nodes :=
  flattenFrom i [] (2 * ns.entryCount + 2) ns

/-- The text of a node where a scalar is asked for. A mapping has that of the node behind its
first value sign, and a list has none. -/
def scalarText (ns : Nodes) : Nat → NodeId → Result Text
  | 0, _ => .error .tooDeep
  | n + 1, i =>
    match ns.node i with
    | .scalar _ text => .ok text
    | .mapping _ es =>
      match es.find? fun e => (ns.node e.1).tag = .value with
      | some e => scalarText ns n e.2
      | none => .error .malformed
    | .sequence _ _ => .error .malformed

/-- The number of value signs that may lead from one to the next. -/
def maxValueSigns : Nat := 950

end Nodes

end Phrasebook.Yaml
