import Phrasebook.Yaml.Scalar

/-!
# Tokens of a source

A source is cut into tokens: scalars, properties of nodes, the signs of collections, and the
starts and ends of block collections, which no character marks and which follow from the
indentation. A mapping key is noticed only at the colon behind it. Until then the scanner
keeps, for every level of flow collections, the place in the token list where a key would
have to be put in. Such a place is given up at the end of its line and after 1024
characters; where the indentation makes a key necessary, giving it up is a fault.
-/

namespace Phrasebook.Yaml

/-- A tag as it is written: an optional handle and a suffix. -/
structure TagName where
  handle : Option Text
  suffix : Text
  deriving DecidableEq, Repr

/-- A directive at the head of a document. -/
inductive DirectiveLine where
  | version (major : Nat)
  | tag (handle tagPrefix : Text)
  | other
  deriving DecidableEq, Repr

/-- A token of a source. -/
inductive Token where
  | directive (d : DirectiveLine)
  | documentStart
  | documentEnd
  | blockSequenceStart
  | blockMappingStart
  | blockEnd
  | flowSequenceStart
  | flowSequenceEnd
  | flowMappingStart
  | flowMappingEnd
  | blockEntry
  | flowEntry
  | key
  | value
  | alias (name : Text)
  | anchor (name : Text)
  | tag (name : TagName)
  | scalar (plain : Bool) (text : Text)
  /-- The place from which the source cannot be cut. -/
  | broken (f : Fault)
  deriving DecidableEq, Repr

/-! ## Tags, anchors and directives -/

/-- May the character stand in a tag as it is? -/
def isUriChar (c : Char) : Bool :=
  c.isAlphanum || "-;/?:@&=+$,_.!~*'()[]".toList.contains c

/-- The octets written as percent signs with two digits each, and the rest. -/
def percentOctets : Text → Result (List UInt8 × Text)
  | '%' :: a :: b :: r =>
    match Number.digitIn? 16 a, Number.digitIn? 16 b with
    | some x, some y => do
      let (more, rest) ← percentOctets r
      return (UInt8.ofNat (16 * x + y) :: more, rest)
    | _, _ => .error .malformed
  | '%' :: _ => .error .malformed
  | r => .ok ([], r)

/-- The text of a tag from a place on. -/
def uriFrom : Nat → Place → Result (Text × Place)
  | 0, p => .ok ([], p)
  | n + 1, p =>
    let (run, q) := p.span isUriChar
    if q.peek? == some '%' then do
      let (octets, rest) ← percentOctets q.rest
      match String.fromUTF8? ⟨octets.toArray⟩ with
      | none => throw .malformed
      | some s =>
        let (more, q) ← uriFrom n (q.advance (q.rest.length - rest.length))
        return (run ++ s.toList ++ more, q)
    else .ok (run, q)

/-- The text of a tag, which may not be empty. -/
def scanUri (p : Place) : Result (Text × Place) := do
  let (uri, q) ← uriFrom (p.rest.length + 1) p
  if q.index = p.index then throw .malformed
  return (uri, q)

/-- A handle of tags: an exclamation mark, or a word between two of them. -/
def scanHandle (p : Place) : Result (Text × Place) :=
  if p.peek? != some '!' then .error .malformed
  else
    let p := p.step
    if p.peek? == some ' ' then .ok (['!'], p)
    else
      let (word, q) := p.span isWord
      if q.peek? == some '!' then .ok ('!' :: word ++ ['!'], q.step) else .error .malformed

/-- A tag, which ends at a space, a line break or the end of the source. -/
def scanTag (p : Place) : Result (TagName × Place) := do
  let next := p.step
  let (name, q) ←
    if next.peek? == some '<' then do
      let (uri, q) ← scanUri next.step
      if q.peek? != some '>' then throw .malformed
      pure ((⟨none, uri⟩ : TagName), q.step)
    else if next.endsOr isSpace then pure (⟨none, ['!']⟩, next)
    else do
      let body := next.rest.takeWhile fun c => c != ' ' && !isBreak c
      let (handle, q) ← if body.contains '!' then scanHandle p else pure (['!'], next)
      let (uri, q) ← scanUri q
      pure (⟨some handle, uri⟩, q)
  if q.endsOr fun c => c == ' ' || isBreak c then return (name, q) else throw .malformed

/-- The name behind the sign of an anchor or alias. -/
def scanName (p : Place) : Result (Text × Place) :=
  let (name, q) := p.step.span isWord
  if name.isEmpty then .error .malformed
  else if q.endsOr fun c => isSpace c || "?:,]\x7d%@\x60".toList.contains c then .ok (name, q)
  else .error .malformed

/-- A number of a version. -/
def scanVersionNumber (p : Place) : Result (Nat × Place) :=
  let (ds, q) := p.span Char.isDigit
  match Number.int 10 ds with
  | .ok n => .ok (n.toNat, q)
  | .error (.tooLong digits) => .error (.longInt digits)
  | .error .notDigits => .error .malformed

/-- A directive with the rest of its line. -/
def scanDirective (p : Place) : Result (DirectiveLine × Place) := do
  let ends (p : Place) := p.endsOr fun c => c == ' ' || isBreak c
  let (name, q) := p.step.span isWord
  if name.isEmpty || !ends q then throw .malformed
  let (d, q) ←
    if name = "YAML".toList then do
      let (major, q) ← scanVersionNumber q.skipSpaces
      if q.peek? != some '.' then throw .malformed
      let (_, q) ← scanVersionNumber q.step
      if !ends q then throw .malformed
      pure (DirectiveLine.version major, q)
    else if name = "TAG".toList then do
      let (handle, q) ← scanHandle q.skipSpaces
      if q.peek? != some ' ' then throw .malformed
      let (uri, q) ← scanUri q.skipSpaces
      if !ends q then throw .malformed
      pure (DirectiveLine.tag handle uri, q)
    else pure (DirectiveLine.other, q.skipLine)
  match q.skipRestOfLine with
  | some q => return (d, q)
  | none => throw .malformed

/-! ## The scanner -/

/-- A place where a key may turn out to start. -/
structure PossibleKey where
  number : Nat
  required : Bool
  place : Place

/-- The state of the scanner. Tokens are kept newest first, and possible keys by their level
of flow collections. -/
structure Scanner where
  place : Place
  flowLevel : Nat := 0
  indent : Int := -1
  indents : List Int := []
  keyAllowed : Bool := true
  keys : List (Nat × PossibleKey) := []
  count : Nat := 0
  tokens : List Token := []

namespace Scanner

/-- A token behind the others. -/
def emit (s : Scanner) (t : Token) : Scanner :=
  { s with tokens := t :: s.tokens, count := s.count + 1 }

/-- A token at a position of the list, which is counted from the first token. -/
def insertAt (s : Scanner) (number : Nat) (t : Token) : Scanner :=
  let (behind, front) := s.tokens.splitAt (s.count - number)
  { s with tokens := behind ++ t :: front, count := s.count + 1 }

/-- Move on to a place. -/
def moveTo (s : Scanner) (p : Place) : Scanner := { s with place := p }

/-- Close the block collections that are indented deeper than a column. -/
def unwind (column : Int) : List Int → Scanner → Scanner
  | [], s => s
  | outer :: rest, s =>
    if s.flowLevel = 0 ∧ column < s.indent then
      unwind column rest ({ s with indent := outer, indents := rest }.emit .blockEnd)
    else s

/-- Close the block collections that are indented deeper than a column. -/
def unwindTo (column : Int) (s : Scanner) : Scanner := unwind column s.indents s

/-- Open a block collection at a column, unless one is open there. -/
def openBlock (column : Int) (s : Scanner) : Option Scanner :=
  if s.indent < column then
    some { s with indents := s.indent :: s.indents, indent := column }
  else none

/-- Give up the possible keys that are too far away. -/
def dropStale (s : Scanner) : Result Scanner :=
  let stale (k : PossibleKey) := k.place.line != s.place.line ||
    decide (1024 < s.place.index - k.place.index)
  if s.keys.any fun e => stale e.2 && e.2.required then .error .malformed
  else .ok { s with keys := s.keys.filter fun e => !stale e.2 }

/-- Give up the possible key of the present level. -/
def dropKey (s : Scanner) : Result Scanner :=
  match s.keys.lookup s.flowLevel with
  | some k => if k.required then .error .malformed
    else .ok { s with keys := s.keys.filter fun e => e.1 != s.flowLevel }
  | none => .ok s

/-- Remember that a key may start here. -/
def saveKey (s : Scanner) : Result Scanner :=
  if s.keyAllowed then do
    let required := decide (s.flowLevel = 0) && s.indent == s.place.column
    let t ← s.dropKey
    return { t with keys := (t.flowLevel, ⟨t.count, required, t.place⟩) :: t.keys }
  else .ok s

/-- The place of the next token, behind spaces, comments and line breaks. A key may start
on every new line of a block collection. -/
def skipToToken : Nat → Scanner → Scanner
  | 0, s => s
  | n + 1, s =>
    let p := s.place.skipSpaces
    let p := if p.peek? == some '#' then p.skipLine else p
    match p.lineBreak? with
    | some (_, q) =>
      skipToToken n { s with place := q, keyAllowed := s.keyAllowed || s.flowLevel == 0 }
    | none => { s with place := p }

/-- A token that closes all block collections and allows no key. -/
def documentToken (t : Token) (width : Nat) (s : Scanner) : Result Scanner := do
  let s ← (s.unwindTo (-1)).dropKey
  return ({ s with keyAllowed := false }.moveTo (s.place.advance width)).emit t

/-- The start of a flow collection. -/
def flowStart (t : Token) (s : Scanner) : Result Scanner := do
  let s ← s.saveKey
  return ({ s with flowLevel := s.flowLevel + 1, keyAllowed := true }.moveTo s.place.step).emit t

/-- The end of a flow collection, which has to be open. -/
def flowEnd (t : Token) (s : Scanner) : Result Scanner := do
  let s ← s.dropKey
  if s.flowLevel = 0 then throw .malformed
  return ({ s with flowLevel := s.flowLevel - 1, keyAllowed := false }.moveTo s.place.step).emit t

/-- The sign of an item or of a key, which opens a block collection where none is open. -/
def blockSign (opening t : Token) (keyAfter : Bool) (s : Scanner) : Result Scanner := do
  if s.flowLevel = 0 && !s.keyAllowed then throw .malformed
  let s := if s.flowLevel = 0 then
      match s.openBlock s.place.column with
      | some s => s.emit opening
      | none => s
    else s
  let s ← { s with keyAllowed := keyAfter }.dropKey
  return (s.moveTo s.place.step).emit t

/-- The colon behind a key. -/
def valueSign (s : Scanner) : Result Scanner := do
  match s.keys.lookup s.flowLevel with
  | some k =>
    let s := { s with keys := s.keys.filter fun e => e.1 != s.flowLevel }.insertAt k.number .key
    let s := if s.flowLevel = 0 then
        match s.openBlock k.place.column with
        | some s => s.insertAt k.number .blockMappingStart
        | none => s
      else s
    return ({ s with keyAllowed := false }.moveTo s.place.step).emit .value
  | none => s.blockSign .blockMappingStart .value (s.flowLevel == 0)

/-- A node property or a scalar, which a key may start with. -/
def nodeToken {α : Type} (scan : Place → Result (α × Place)) (t : α → Token)
    (s : Scanner) : Result Scanner := do
  let s ← s.saveKey
  let (a, p) ← scan s.place
  return ({ s with keyAllowed := false }.moveTo p).emit (t a)

/-- A plain scalar. -/
def plainToken (s : Scanner) : Result Scanner := do
  let s ← s.saveKey
  let (text, p, broken) := plainScalar (s.flowLevel != 0) (s.indent + 1) s.place
  return ({ s with keyAllowed := broken }.moveTo p).emit (.scalar true text)

/-- A block scalar. -/
def blockToken (folded : Bool) (s : Scanner) : Result Scanner := do
  let s ← { s with keyAllowed := true }.dropKey
  let (text, p) ← blockScalar folded s.indent s.place
  return (s.moveTo p).emit (.scalar false text)

/-- May a plain scalar start with these characters? -/
def startsPlain (inFlow : Bool) (c : Char) (next : Place) : Bool :=
  !(isSpace c || "-?:,[]\x7b\x7d#&*!|>'\"%@\x60".toList.contains c) ||
    (!next.endsOr isSpace && (c == '-' || (!inFlow && (c == '?' || c == ':'))))

/-- The next token, which starts with a character that is not white space. -/
def token (c : Char) (s : Scanner) : Result Scanner :=
  let p := s.place
  let next := p.step
  let inFlow := s.flowLevel != 0
  if c == '%' && p.column == 0 then do
    let (d, q) ← scanDirective p
    return (← s.documentToken (.directive d) 0).moveTo q
  else if c == '-' && p.column == 0 && p.hasMarker '-' then s.documentToken .documentStart 3
  else if c == '.' && p.column == 0 && p.hasMarker '.' then s.documentToken .documentEnd 3
  else if c == '[' then s.flowStart .flowSequenceStart
  else if c == '{' then s.flowStart .flowMappingStart
  else if c == ']' then s.flowEnd .flowSequenceEnd
  else if c == '}' then s.flowEnd .flowMappingEnd
  else if c == ',' then do
    let s ← { s with keyAllowed := true }.dropKey
    return (s.moveTo next).emit .flowEntry
  else if c == '-' && next.endsOr isSpace then s.blockSign .blockSequenceStart .blockEntry true
  else if c == '?' && (inFlow || next.endsOr isSpace) then
    s.blockSign .blockMappingStart .key (!inFlow)
  else if c == ':' && (inFlow || next.endsOr isSpace) then s.valueSign
  else if c == '*' then s.nodeToken scanName .alias
  else if c == '&' then s.nodeToken scanName .anchor
  else if c == '!' then s.nodeToken scanTag .tag
  else if c == '|' && !inFlow then s.blockToken false
  else if c == '>' && !inFlow then s.blockToken true
  else if c == '\x27' then s.nodeToken (quotedScalar false) (.scalar false)
  else if c == '"' then s.nodeToken (quotedScalar true) (.scalar false)
  else if startsPlain inFlow c next then s.plainToken
  else .error .malformed

/-- The number of tokens in front of which no key can be put in any more. -/
def certain (s : Scanner) : Nat :=
  ((s.keys.map fun e => e.2.number).min?).getD s.count

/-- The certain tokens, and a fault behind them. -/
def breakOff (s : Scanner) (f : Fault) : List Token :=
  s.tokens.reverse.take s.certain ++ [.broken f]

/-- The state behind the next token and whether the source ends there. -/
def next (s : Scanner) : Result (Scanner × Bool) := do
  let s ← (skipToToken (s.place.rest.length + 1) s).dropStale
  let s := s.unwindTo s.place.column
  match s.place.peek? with
  | none => return (← (s.unwindTo (-1)).dropKey, true)
  | some c => return (← s.token c, false)

/-- All tokens from a state on. -/
def run : Nat → Scanner → List Token
  | 0, s => s.breakOff .malformed
  | n + 1, s =>
    match s.dropStale with
    | .error f => s.breakOff f
    | .ok s =>
      match s.next with
      | .error f => s.breakOff f
      | .ok (s, true) => s.tokens.reverse
      | .ok (s, false) => run n s

end Scanner

/-- The tokens of a source. A byte order mark at its start is skipped. -/
def tokens (source : Text) : List Token :=
  if source.all isAllowed then
    let p : Place := { rest := source }
    let p := if p.peek? == some '\ufeff' then p.step else p
    Scanner.run (source.length + 2) { place := p }
  else [.broken .malformed]

end Phrasebook.Yaml
