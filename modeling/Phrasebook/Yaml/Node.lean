import Phrasebook.Yaml.Tag
import Phrasebook.Yaml.Token

/-!
# Nodes of a source

The tokens of a source are put together to numbered nodes, which refer to each other by
their numbers. A scalar gets its tag from its form when it is plain, and an alias is the
number of the node of its anchor, which has to come before it and may be defined once. An
anchor of a collection stands for it already inside the collection. A source holds at most
one document; more than one is refused.

Tokens are looked at from left to right and no further than is needed, so a source that is
broken behind its first fault has that fault. The functions count down a number of steps
taken from the number of tokens. Each of them either takes a token or calls one that does,
so the count is never reached.
-/

namespace Phrasebook.Yaml

/-- The number of a node in its source. -/
abbrev NodeId := Nat

/-- A node of a source, which refers to others by their numbers. -/
inductive Node where
  | scalar (tag : Tag) (text : Text)
  | sequence (tag : Tag) (items : List NodeId)
  | mapping (tag : Tag) (entries : List (NodeId × NodeId))
  deriving Repr

instance : Inhabited Node := ⟨.scalar .null []⟩

/-- The nodes of a source in the order of their numbers. -/
abbrev Nodes := Array Node

/-- The tag of a node. -/
def Node.tag : Node → Tag
  | .scalar tag _ => tag
  | .sequence tag _ => tag
  | .mapping tag _ => tag

/-- What is left of the tokens, the nodes that were made, the anchors defined so far, and the
number of collections that are open. -/
structure Parser where
  tokens : List Token
  nodes : Nodes := #[]
  anchors : List (Text × NodeId) := []
  handles : List (Text × Text) := []
  depth : Nat := 0

/-- The properties in front of a node. -/
structure Properties where
  anchor : Option Text := none
  tag : Option Text := none

namespace Parser

/-- The next token. There is none at the end of the source. -/
def peek (p : Parser) : Result (Option Token) :=
  match p.tokens with
  | .broken f :: _ => .error f
  | t :: _ => .ok (some t)
  | [] => .ok none

/-- Take the next token away. -/
def drop (p : Parser) : Parser := { p with tokens := p.tokens.tail }

/-- Is one of these tokens next? -/
def nextIn (p : Parser) (ts : List Token) : Result Bool := do
  match ← p.peek with
  | some t => return ts.contains t
  | none => return false

/-- The full tag of a written one. -/
def fullTag (p : Parser) (name : TagName) : Result Text :=
  match name.handle with
  | none => .ok name.suffix
  | some handle =>
    match p.handles.lookup handle with
    | some start => .ok (start ++ name.suffix)
    | none => .error .malformed

/-- The anchor and the tag in front of a node, in either order. -/
def properties (p : Parser) : Result (Properties × Parser) := do
  match ← p.peek with
  | some (.anchor a) =>
    let p := p.drop
    match ← p.peek with
    | some (.tag t) => return (⟨some a, some (← p.fullTag t)⟩, p.drop)
    | _ => return (⟨some a, none⟩, p)
  | some (.tag t) =>
    let p := p.drop
    match ← p.peek with
    | some (.anchor a) => return (⟨some a, some (← p.fullTag t)⟩, p.drop)
    | _ => return (⟨none, some (← p.fullTag t)⟩, p)
  | _ => return ({}, p)

/-- A new node, for which its anchor stands from now on. The anchor has to be new too. -/
def make (p : Parser) (anchor : Option Text) (node : Node) : Result (NodeId × Parser) :=
  let i := p.nodes.size
  match anchor with
  | none => .ok (i, { p with nodes := p.nodes.push node })
  | some a =>
    match p.anchors.lookup a with
    | some _ => .error .malformed
    | none => .ok (i, { p with nodes := p.nodes.push node, anchors := (a, i) :: p.anchors })

/-- The number of collections that may be open at once. -/
def maxDepth : Nat := 480

/-- A new collection that is open, so far without contents. -/
def enter (p : Parser) (anchor : Option Text) (node : Node) : Result (NodeId × Parser) :=
  if maxDepth ≤ p.depth then .error .tooDeep
  else { p with depth := p.depth + 1 }.make anchor node

/-- Close a collection that has the contents of a node. -/
def leave (p : Parser) (i : NodeId) (node : Node) : NodeId × Parser :=
  (i, { p with nodes := p.nodes.setIfInBounds i node, depth := p.depth - 1 })

/-- The tag of a collection. -/
def collectionTag (written : Option Text) (usual : Tag) : Tag :=
  match written with
  | none => usual
  | some tag => if tag = ['!'] then usual else Tag.ofText tag

/-- The tag of a scalar: the written one, else the one that its form gives it. -/
def scalarTag (written : Option Text) (plain : Bool) (text : Text) : Tag :=
  match written with
  | none => if plain then Tag.ofForm text else .str
  | some tag => if tag = ['!'] then Tag.ofForm text else Tag.ofText tag

/-- A new node without text, which stands for nothing. -/
def empty (p : Parser) : Result (NodeId × Parser) := p.make none (.scalar (Tag.ofForm []) [])

/-- What properties without a node stand for: an empty scalar. -/
def absent (props : Properties) (p : Parser) : Result (NodeId × Parser) :=
  if props.anchor.isNone && props.tag.isNone then .error .malformed
  else p.make props.anchor (.scalar (scalarTag props.tag true []) [])

mutual

/-- A node. Block collections are allowed in block context, and an item sign may start a
list without indentation where a mapping allows one. -/
def node (block indentless : Bool) : Nat → Parser → Result (NodeId × Parser)
  | 0, _ => .error .malformed
  | n + 1, p => do
    match ← p.peek with
    | some (.alias a) =>
      match p.anchors.lookup a with
      | some i => return (i, p.drop)
      | none => throw .malformed
    | _ => do
      let (props, p) ← p.properties
      content block indentless props n p

/-- What follows the properties of a node. -/
def content (block indentless : Bool) (props : Properties) :
    Nat → Parser → Result (NodeId × Parser)
  | 0, _ => .error .malformed
  | n + 1, p => do
    let list := Node.sequence (collectionTag props.tag .seq)
    let table := Node.mapping (collectionTag props.tag .map)
    match ← p.peek with
    | some (.scalar plain text) =>
      p.drop.make props.anchor (.scalar (scalarTag props.tag plain text) text)
    | some .flowSequenceStart => do
      let (i, p) ← p.drop.enter props.anchor (list [])
      let (items, p) ← flowItems true n p
      return p.leave i (list items)
    | some .flowMappingStart => do
      let (i, p) ← p.drop.enter props.anchor (table [])
      let (entries, p) ← flowEntries true n p
      return p.leave i (table entries)
    | some t =>
      if indentless && t == .blockEntry then do
        let (i, p) ← p.enter props.anchor (list [])
        let (items, p) ← looseItems n p
        return p.leave i (list items)
      else if block && t == .blockSequenceStart then do
        let (i, p) ← p.drop.enter props.anchor (list [])
        let (items, p) ← blockItems n p
        return p.leave i (list items)
      else if block && t == .blockMappingStart then do
        let (i, p) ← p.drop.enter props.anchor (table [])
        let (entries, p) ← blockEntries n p
        return p.leave i (table entries)
      else absent props p
    | none => absent props p

/-- A node, or an empty one if one of some tokens is next. -/
def nodeUnless (stops : List Token) (block indentless : Bool) :
    Nat → Parser → Result (NodeId × Parser)
  | 0, _ => .error .malformed
  | n + 1, p => do if ← p.nextIn stops then p.empty else node block indentless n p

/-- The node behind the sign of a value, or an empty one where the sign is missing. -/
def valueUnless (stops : List Token) (block indentless : Bool) :
    Nat → Parser → Result (NodeId × Parser)
  | 0, _ => .error .malformed
  | n + 1, p => do
    if ← p.nextIn [.value] then nodeUnless stops block indentless n p.drop else p.empty

/-- The items of a block sequence up to its end. -/
def blockItems : Nat → Parser → Result (List NodeId × Parser)
  | 0, _ => .error .malformed
  | n + 1, p => do
    match ← p.peek with
    | some .blockEntry => do
      let (item, p) ← nodeUnless [.blockEntry, .blockEnd] true false n p.drop
      let (items, p) ← blockItems n p
      return (item :: items, p)
    | some .blockEnd => return ([], p.drop)
    | _ => throw .malformed

/-- The items of a sequence without indentation. -/
def looseItems : Nat → Parser → Result (List NodeId × Parser)
  | 0, _ => .error .malformed
  | n + 1, p => do
    match ← p.peek with
    | some .blockEntry => do
      let (item, p) ← nodeUnless [.blockEntry, .key, .value, .blockEnd] true false n p.drop
      let (items, p) ← looseItems n p
      return (item :: items, p)
    | _ => return ([], p)

/-- The entries of a block mapping up to its end. -/
def blockEntries : Nat → Parser → Result (List (NodeId × NodeId) × Parser)
  | 0, _ => .error .malformed
  | n + 1, p => do
    match ← p.peek with
    | some .key => do
      let (key, p) ← nodeUnless [.key, .value, .blockEnd] true true n p.drop
      let (value, p) ← valueUnless [.key, .value, .blockEnd] true true n p
      let (entries, p) ← blockEntries n p
      return ((key, value) :: entries, p)
    | some .blockEnd => return ([], p.drop)
    | _ => throw .malformed

/-- The items of a flow sequence up to its end. An item with a key is a mapping of one
entry. -/
def flowItems (first : Bool) : Nat → Parser → Result (List NodeId × Parser)
  | 0, _ => .error .malformed
  | n + 1, p => do
    match ← p.peek with
    | some .flowSequenceEnd => return ([], p.drop)
    | some t => do
      let p ← if first then pure p else if t == .flowEntry then pure p.drop else throw .malformed
      match ← p.peek with
      | some .flowSequenceEnd => return ([], p.drop)
      | some .key => do
        let (i, p) ← p.drop.enter none (.mapping .map [])
        let (key, p) ← nodeUnless [.value, .flowEntry, .flowSequenceEnd] false false n p
        let (value, p) ← valueUnless [.flowEntry, .flowSequenceEnd] false false n p
        let (item, p) := p.leave i (.mapping .map [(key, value)])
        let (items, p) ← flowItems false n p
        return (item :: items, p)
      | _ => do
        let (item, p) ← node false false n p
        let (items, p) ← flowItems false n p
        return (item :: items, p)
    | none => throw .malformed

/-- The entries of a flow mapping up to its end. A node without a colon is a key for
nothing. -/
def flowEntries (first : Bool) : Nat → Parser → Result (List (NodeId × NodeId) × Parser)
  | 0, _ => .error .malformed
  | n + 1, p => do
    match ← p.peek with
    | some .flowMappingEnd => return ([], p.drop)
    | some t => do
      let p ← if first then pure p else if t == .flowEntry then pure p.drop else throw .malformed
      match ← p.peek with
      | some .flowMappingEnd => return ([], p.drop)
      | some .key => do
        let (key, p) ← nodeUnless [.value, .flowEntry, .flowMappingEnd] false false n p.drop
        let (value, p) ← valueUnless [.flowEntry, .flowMappingEnd] false false n p
        let (entries, p) ← flowEntries false n p
        return ((key, value) :: entries, p)
      | _ => do
        let (key, p) ← node false false n p
        let (value, p) ← p.empty
        let (entries, p) ← flowEntries false n p
        return ((key, value) :: entries, p)
    | none => throw .malformed

end

/-- The handles that need no directive. -/
def usualHandles : List (Text × Text) := [(['!'], ['!']), (['!', '!'], Tag.space)]

/-- The directives of a document, none of which may stand twice. -/
def directives :
    Bool → List (Text × Text) → List Token → Result (List (Text × Text) × List Token)
  | versioned, handles, .directive d :: rest =>
    match d with
    | .version major =>
      if versioned || major != 1 then .error .malformed else directives true handles rest
    | .tag handle tagPrefix =>
      match handles.lookup handle with
      | some _ => .error .malformed
      | none => directives versioned ((handle, tagPrefix) :: handles) rest
    | .other => directives versioned handles rest
  | _, handles, rest => .ok (handles ++ usualHandles, rest)

/-- Read the root node of a document whose directives were read. -/
def root (p : Parser) : Result (NodeId × Parser) := node true false (5 * p.tokens.length + 5) p

/-- The start of a document behind its directives. -/
def documentStart (handles : List (Text × Text)) (tokens : List Token) :
    Result (NodeId × Parser) := do
  let p : Parser := { tokens, handles }
  match ← p.peek with
  | some .documentStart =>
    let p := p.drop
    match ← p.peek with
    | none | some (.directive _) | some .documentStart | some .documentEnd => p.empty
    | _ => p.root
  | _ => throw .malformed

/-- The root of the document at the front of the tokens, unless there is none. -/
def document (tokens : List Token) : Result (Option (NodeId × Parser)) := do
  let p : Parser := { tokens, handles := usualHandles }
  match ← p.peek with
  | none => return none
  | some (.directive _) | some .documentStart => do
    let (handles, rest) ← directives false [] tokens
    return some (← documentStart handles rest)
  | _ => return some (← p.root)

/-- No document may follow, nor directives, which need one. The directives are still read. -/
def finish (tokens : List Token) : Result Unit := do
  match tokens.dropWhile (· == .documentEnd) with
  | [] => return
  | tokens => do
    match ← directives false [] tokens with
    | (_, .broken f :: _) => throw f
    | _ => throw .malformed

end Parser

/-- The nodes of the one document of the tokens, with the number of its root. A source
without a document has none. -/
def Nodes.ofTokens (tokens : List Token) : Result (Option (NodeId × Nodes)) := do
  match ← Parser.document tokens with
  | none => return none
  | some (i, p) => do
    Parser.finish p.tokens
    return some (i, p.nodes)

end Phrasebook.Yaml
