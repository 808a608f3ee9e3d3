import Phrasebook.Yaml.Fault
import Phrasebook.Yaml.Place

/-!
# Scalars in a source

The three ways to write a scalar. A plain scalar runs until a colon or a comment makes an
end of it; a quoted scalar runs to its closing quote, with escapes between double quotes;
a block scalar is a run of lines that are indented far enough. Lines broken inside a plain
or quoted scalar are folded: one break becomes a space, and further ones stay.

The loops count down a number of steps that is taken from the length of the source, which
every round shortens.
-/

namespace Phrasebook.Yaml

/-- The folded form of line breaks: the first one is a space unless others follow, or
unless it is a separator. -/
def foldBreaks (first : Char) (others : Text) : Text :=
  if first != '\n' then first :: others
  else if others.isEmpty then [' ']
  else others

/-! ## Plain scalars -/

/-- The line breaks at a place with the spaces between them, or nothing if a separator of
documents comes. -/
def plainBreaks : Nat → Place → Option (Text × Place)
  | 0, p => some ([], p)
  | n + 1, p =>
    if p.peek? == some ' ' then plainBreaks n p.step
    else
      match p.lineBreak? with
      | none => some ([], p)
      | some (c, q) =>
        if q.atSeparator then none
        else (plainBreaks n q).map fun (cs, q) => (c :: cs, q)

/-- The white space inside a plain scalar: its folded form, the place behind it, and whether
a line was broken. No text means that the scalar has ended. -/
def plainSpaces (p : Place) : Text × Place × Bool :=
  let (blanks, p) := p.span (· == ' ')
  match p.lineBreak? with
  | none => (blanks, p, false)
  | some (c, q) =>
    if q.atSeparator then ([], q, true)
    else
      match plainBreaks q.rest.length q with
      | none => ([], q, true)
      | some (cs, r) => (foldBreaks c cs, r, true)

/-- Does a plain scalar end before this text? -/
def plainEnds (inFlow : Bool) : Text → Bool
  | [] => true
  | c :: r =>
    isSpace c ||
      (c == ':' && (match r with
        | [] => true
        | d :: _ => isSpace d || (inFlow && [',', '[', ']', '{', '}'].contains d))) ||
      (inFlow && [',', '?', '[', ']', '{', '}'].contains c)

/-- The characters up to where a plain scalar ends or has white space. -/
def plainRun (inFlow : Bool) : Text → Text
  | [] => []
  | c :: r => if plainEnds inFlow (c :: r) then [] else c :: plainRun inFlow r

/-- What a plain scalar holds from a place on, behind white space that was already read. The
Boolean says whether a line was broken last, so that a key may follow. -/
def plainFrom (inFlow : Bool) (indent : Int) : Nat → Text → Bool → Place → Text × Place × Bool
  | 0, _, broken, p => ([], p, broken)
  | n + 1, blanks, broken, p =>
    if p.peek? == some '#' then ([], p, broken)
    else
      let run := plainRun inFlow p.rest
      if run.isEmpty then ([], p, broken)
      else
        let p := p.advance run.length
        let (next, q, broken) := plainSpaces p
        if next.isEmpty || q.peek? == some '#' || (!inFlow && (q.column : Int) < indent) then
          (blanks ++ run, q, broken)
        else
          let (more, q, broken) := plainFrom inFlow indent n next broken q
          (blanks ++ run ++ more, q, broken)

/-- A plain scalar. -/
def plainScalar (inFlow : Bool) (indent : Int) (p : Place) : Text × Place × Bool :=
  plainFrom inFlow indent (p.rest.length + 1) [] false p

/-! ## Quoted scalars -/

/-- The characters that are named by a letter behind a backslash. -/
def escapes : List (Char × Char) :=
  [('0', '\x00'), ('a', '\x07'), ('b', '\x08'), ('t', '\t'), ('\t', '\t'), ('n', '\n'),
   ('v', '\x0b'), ('f', '\x0c'), ('r', '\r'), ('e', '\x1b'), (' ', ' '), ('"', '"'),
   ('\x5c', '\x5c'), ('/', '/'), ('N', '\x85'), ('_', '\xa0'), ('L', '\u2028'), ('P', '\u2029')]

/-- The number of digits behind the letters that name a character by its number. -/
def escapeWidth? (c : Char) : Option Nat :=
  if c = 'x' then some 2 else if c = 'u' then some 4 else if c = 'U' then some 8 else none

/-- The character of a number written in hexadecimal digits. -/
def numbered (width : Nat) (s : Text) : Result Char :=
  let ds := s.take width
  if ds.length = width ∧ ds.all fun c => (Number.digitIn? 16 c).isSome then
    let n := (Number.digits? 16 ds).getD 0
    if 0x80000000 ≤ n then .error .hugeCharacter
    else if 0x10FFFF < n then .error .noCharacter
    else .ok (Char.ofNat n)
  else .error .malformed

/-- The line breaks at a place with the blanks between them. -/
def quotedBreaks : Nat → Place → Result (Text × Place)
  | 0, p => .ok ([], p)
  | n + 1, p =>
    if p.atSeparator then .error .malformed
    else
      let p := p.skip fun c => c == ' ' || c == '\t'
      match p.lineBreak? with
      | none => .ok ([], p)
      | some (c, q) => do
        let (cs, q) ← quotedBreaks n q
        return (c :: cs, q)

/-- White space inside a quoted scalar. -/
def quotedSpaces (p : Place) : Result (Text × Place) :=
  let (blanks, p) := p.span fun c => c == ' ' || c == '\t'
  if p.rest.isEmpty then .error .malformed
  else
    match p.lineBreak? with
    | none => .ok (blanks, p)
    | some (c, q) => do
      let (cs, q) ← quotedBreaks (q.rest.length + 1) q
      return (foldBreaks c cs, q)

/-- What stands between the quotes, from a place behind the opening quote on, and the place
behind the closing one. -/
def quotedFrom (double : Bool) : Nat → Place → Result (Text × Place)
  | 0, _ => .error .malformed
  | n + 1, p =>
    match p.rest with
    | [] => .error .malformed
    | '"' :: _ =>
      if double then .ok ([], p.step)
      else do
        let (cs, q) ← quotedFrom double n p.step
        return ('"' :: cs, q)
    | '\x27' :: r =>
      if double then do
        let (cs, q) ← quotedFrom double n p.step
        return ('\x27' :: cs, q)
      else if r.head? == some '\x27' then do
        let (cs, q) ← quotedFrom double n (p.advance 2)
        return ('\x27' :: cs, q)
      else .ok ([], p.step)
    | '\x5c' :: r =>
      if !double then do
        let (cs, q) ← quotedFrom double n p.step
        return ('\x5c' :: cs, q)
      else
        match r with
        | [] => .error .malformed
        | e :: digits =>
          match escapes.lookup e, escapeWidth? e with
          | some c, _ => do
            let (cs, q) ← quotedFrom double n (p.advance 2)
            return (c :: cs, q)
          | none, some width => do
            let c ← numbered width digits
            let (cs, q) ← quotedFrom double n (p.advance (2 + width))
            return (c :: cs, q)
          | none, none =>
            match p.step.lineBreak? with
            | none => .error .malformed
            | some (_, q) => do
              let (breaks, q) ← quotedBreaks (q.rest.length + 1) q
              let (cs, q) ← quotedFrom double n q
              return (breaks ++ cs, q)
    | c :: _ =>
      if isSpace c then do
        let (blanks, q) ← quotedSpaces p
        let (cs, q) ← quotedFrom double n q
        return (blanks ++ cs, q)
      else do
        let (cs, q) ← quotedFrom double n p.step
        return (c :: cs, q)

/-- A quoted scalar, from its opening quote on. -/
def quotedScalar (double : Bool) (p : Place) : Result (Text × Place) :=
  quotedFrom double (p.rest.length + 1) p.step

/-! ## Block scalars -/

/-- What becomes of the line breaks at the end of a block scalar. -/
inductive Chomping where
  | strip
  | clip
  | keep
  deriving DecidableEq, Repr

/-- The sign that chooses what becomes of the last line breaks. -/
def chompingSign? : Option Char → Option Chomping
  | some '+' => some .keep
  | some '-' => some .strip
  | _ => none

/-- The digit that gives the indentation of a block scalar; zero is refused. -/
def indentationDigit (p : Place) : Result (Option Nat × Place) :=
  match p.rest with
  | c :: _ =>
    if c == '0' then .error .malformed
    else if c.isDigit then .ok (Number.digit? c, p.step)
    else .ok (none, p)
  | [] => .ok (none, p)

/-- The header of a block scalar: what is kept at the end, and the indentation if it is
given. The two may come in either order. -/
def blockHeader (p : Place) : Result (Chomping × Option Nat × Place) := do
  let (chomping, increment, p) ← match chompingSign? p.peek? with
    | some chomping => do
      let (increment, p) ← indentationDigit p.step
      pure (chomping, increment, p)
    | none => do
      let (increment, p) ← indentationDigit p
      match increment, chompingSign? p.peek? with
      | some _, some chomping => pure (chomping, increment, p.step)
      | _, _ => pure (.clip, increment, p)
  if !p.endsOr fun c => c == ' ' || isBreak c then throw .malformed
  match p.skipRestOfLine with
  | none => throw .malformed
  | some p => return (chomping, increment, p)

/-- The empty lines before a block scalar whose indentation is not given, and the greatest
column reached on the way. -/
def leadingBreaks : Nat → Nat → Place → Text × Nat × Place
  | 0, deepest, p => ([], deepest, p)
  | n + 1, deepest, p =>
    if p.peek? == some ' ' then
      let p := p.step
      leadingBreaks n (max deepest p.column) p
    else
      match p.lineBreak? with
      | none => ([], deepest, p)
      | some (c, q) =>
        let (cs, deepest, q) := leadingBreaks n deepest q
        (c :: cs, deepest, q)

/-- The place behind the spaces up to an indentation. -/
def skipIndent (indent : Nat) : Nat → Place → Place
  | 0, p => p
  | n + 1, p =>
    if p.column < indent && p.peek? == some ' ' then skipIndent indent n p.step else p

/-- The empty lines at a place, and the place where the next line's text starts. -/
def blockBreaks (indent : Nat) : Nat → Place → Text × Place
  | 0, p => ([], p)
  | n + 1, p =>
    let p := skipIndent indent indent p
    match p.lineBreak? with
    | none => ([], p)
    | some (c, q) =>
      let (cs, q) := blockBreaks indent n q
      (c :: cs, q)

/-- Does a line of the block scalar start here? -/
def blockLineAt (indent : Nat) (p : Place) : Bool := p.column == indent && !p.rest.isEmpty

/-- The lines of a block scalar behind some empty lines: their text without the last breaks,
the last line break, the empty lines at the end, and the place behind. -/
def blockLines (folded : Bool) (indent : Nat) : Nat → Text → Place → Text × Text × Text × Place
  | 0, breaks, p => ([], [], breaks, p)
  | n + 1, breaks, p =>
    if !blockLineAt indent p then ([], [], breaks, p)
    else
      let solid := !p.nextIs fun c => c == ' ' || c == '\t'
      let (line, p) := p.span fun c => !isBreak c
      let (lineBreak, p) := match p.lineBreak? with
        | some (c, q) => ([c], q)
        | none => ([], p)
      let (next, q) := blockBreaks indent (p.rest.length + 1) p
      if blockLineAt indent q then
        let folds := folded && lineBreak == ['\n'] && solid &&
          !q.nextIs fun c => c == ' ' || c == '\t'
        let joint := if folds then (if next.isEmpty then [' '] else []) else lineBreak
        let (more, last, tail, q) := blockLines folded indent n next q
        (breaks ++ line ++ joint ++ more, last, tail, q)
      else (breaks ++ line, lineBreak, next, q)

/-- A block scalar, from its sign on, inside a collection with some indentation. -/
def blockScalar (folded : Bool) (parent : Int) (p : Place) : Result (Text × Place) := do
  let (chomping, increment, p) ← blockHeader p.step
  let least := (max (parent + 1) 1).toNat
  let (indent, breaks, p) := match increment with
    | some k =>
      let indent := least + k - 1
      let (breaks, p) := blockBreaks indent (p.rest.length + 1) p
      (indent, breaks, p)
    | none =>
      let (breaks, deepest, p) := leadingBreaks (p.rest.length + 1) 0 p
      (max least deepest, breaks, p)
  let (body, last, tail, p) := blockLines folded indent (p.rest.length + 1) breaks p
  return (match chomping with
    | .strip => body
    | .clip => body ++ last
    | .keep => body ++ last ++ tail, p)

end Phrasebook.Yaml
