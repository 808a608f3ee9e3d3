import Phrasebook.Text.Basic

/-!
# Places in a source text

A place is the rest of a source with the line and column where it starts. Advancing over a
line break starts a new line; the byte order mark has no width. Five characters break
lines, and the two separators of Unicode among them keep their identity when a broken
line is folded, while the others all stand for a line feed.
-/

namespace Phrasebook.Yaml

/-- The rest of a source and where it starts. -/
structure Place where
  rest : Text
  index : Nat := 0
  line : Nat := 0
  column : Nat := 0

/-- Does the character break lines? -/
def isBreak (c : Char) : Bool :=
  c == '\n' || c == '\r' || c == '\x85' || c == '\u2028' || c == '\u2029'

/-- A space, a tab or a line break. -/
def isSpace (c : Char) : Bool := c == ' ' || c == '\t' || isBreak c

/-- A letter, a digit, a hyphen or an underscore, all of them in ASCII. -/
def isWord (c : Char) : Bool := c.isAlphanum || c == '-' || c == '_'

/-- May the character stand in a source? -/
def isAllowed (c : Char) : Bool :=
  let n := c.toNat
  n == 0x09 || n == 0x0A || n == 0x0D || (0x20 ≤ n && n ≤ 0x7E) || n == 0x85 ||
    (0xA0 ≤ n && n ≤ 0xD7FF) || (0xE000 ≤ n && n ≤ 0xFFFD) || 0x10000 ≤ n

namespace Place

/-- The next character. -/
def peek? (p : Place) : Option Char := p.rest.head?

/-- Is the next character of a class? The end of the source is of none. -/
def nextIs (p : Place) (f : Char → Bool) : Bool :=
  match p.rest with
  | [] => false
  | c :: _ => f c

/-- Is the next character of a class, or the source at its end? -/
def endsOr (p : Place) (f : Char → Bool) : Bool :=
  match p.rest with
  | [] => true
  | c :: _ => f c

/-- One character further. -/
def step (p : Place) : Place :=
  match p.rest with
  | [] => p
  | c :: r =>
    if isBreak c && !(c == '\r' && r.head? == some '\n') then
      { rest := r, index := p.index + 1, line := p.line + 1 }
    else
      { p with rest := r, index := p.index + 1
               column := if c == '\ufeff' then p.column else p.column + 1 }

/-- Some characters further. -/
def advance : Nat → Place → Place
  | 0, p => p
  | n + 1, p => advance n p.step

/-- The longest run of characters of a class, and the place behind it. -/
def span (p : Place) (f : Char → Bool) : Text × Place :=
  let run := p.rest.takeWhile f
  (run, p.advance run.length)

/-- The place behind the longest run of characters of a class. -/
def skip (p : Place) (f : Char → Bool) : Place := (p.span f).2

/-- The place behind the spaces. -/
def skipSpaces (p : Place) : Place := p.skip (· == ' ')

/-- The place at the end of the line. -/
def skipLine (p : Place) : Place := p.skip fun c => !isBreak c

/-- The line break at a place and the place behind it. -/
def lineBreak? (p : Place) : Option (Char × Place) :=
  match p.rest with
  | '\r' :: '\n' :: _ => some ('\n', p.advance 2)
  | c :: _ =>
    if c == '\u2028' || c == '\u2029' then some (c, p.step)
    else if isBreak c then some ('\n', p.step)
    else none
  | [] => none

/-- Do three equal characters stand here, with a space or the end behind them? -/
def hasMarker (p : Place) (c : Char) : Bool :=
  match p.rest with
  | a :: b :: d :: r =>
    a == c && b == c && d == c && (match r with | [] => true | e :: _ => isSpace e)
  | _ => false

/-- Does a line here separate documents? -/
def atSeparator (p : Place) : Bool := p.hasMarker '-' || p.hasMarker '.'

/-- The place behind spaces, a comment and a line break; nothing else may stand there. -/
def skipRestOfLine (p : Place) : Option Place :=
  let p := p.skipSpaces
  let p := if p.peek? == some '#' then p.skipLine else p
  match p.lineBreak? with
  | some (_, q) => some q
  | none => if p.rest.isEmpty then some p else none

end Place

end Phrasebook.Yaml
