import Phrasebook.Number.Decimals
import Phrasebook.Value

/-!
# Messages with arguments

A message may have places for arguments: a percent sign, flags, a width, a precision and a
letter for the kind of text. Arguments are used in their order, and each has to be used; a
star for a width or precision uses one too. Two percent signs stand for one. If the only
argument is a dictionary with entries, a place may name one of its keys, and not all have to
be named.
-/

namespace Phrasebook.Log

/-- Why a message and its arguments do not fit. -/
inductive PercentFault where
  | tooFew
  | tooMany
  /-- An argument is of another kind than its place asks for. -/
  | wrongKind
  /-- A place is not written to its end, or asks for a kind of text that there is not. -/
  | badPlace
  | missingKey
  /-- An integer is asked for where there is no number. -/
  | notANumber
  /-- A number is too large for its place. -/
  | tooLarge
  deriving DecidableEq, Repr

abbrev Filled (α : Type) := Except PercentFault α

/-! ## Places -/

/-- How the text of an argument is laid out. -/
structure Place where
  left : Bool := false
  zeros : Bool := false
  plus : Bool := false
  blank : Bool := false
  /-- The form of numbers that shows their base, or keeps their point. -/
  alternate : Bool := false
  width : Nat := 0
  precision : Option Nat := none

/-- What is left while a message is read: its text, and the arguments that were not used. -/
structure Remaining where
  text : Text
  arguments : List Value

/-- The next argument. -/
def Remaining.argument (r : Remaining) : Filled (Value × Remaining) :=
  match r.arguments with
  | [] => .error .tooFew
  | v :: vs => .ok (v, { r with arguments := vs })

/-- Take the flags in front of a width. -/
def flags (p : Place) : Text → Place × Text
  | '-' :: r => flags { p with left := true } r
  | '0' :: r => flags { p with zeros := true } r
  | '+' :: r => flags { p with plus := true } r
  | ' ' :: r => flags { p with blank := true } r
  | '#' :: r => flags { p with alternate := true } r
  | r => (p, r)

/-- A size below a bound: digits, or an argument where a star stands. Without either there
is none. -/
def size (bound : Nat) (r : Remaining) : Filled (Option Int × Remaining) :=
  match r.text with
  | '*' :: rest => do
    let (v, r) ← { r with text := rest }.argument
    let n : Int ← match v with
      | .scalar (.int i) => pure i
      | .scalar (.bool b) => pure (if b then 1 else 0)
      | _ => throw .wrongKind
    if bound ≤ n.natAbs then throw .tooLarge else return (some n, r)
  | s =>
    let ds := s.takeWhile Char.isDigit
    let n := ds.foldl (fun n c => 10 * n + (c.toNat - '0'.toNat)) 0
    if bound ≤ n then .error .badPlace
    else .ok (if ds.isEmpty then none else some n, { r with text := s.dropWhile Char.isDigit })

/-- The layout of a place and the letter of its kind. -/
def place (r : Remaining) : Filled (Place × Char × Remaining) := do
  let (p, rest) := flags {} r.text
  let (width, r) ← size 0x8000000000000000 { r with text := rest }
  let w := width.getD 0
  let p := { p with left := p.left || w < 0, width := w.natAbs }
  let (p, r) ← match r.text with
    | '.' :: rest => do
      let (precision, r) ← size 0x80000000 { r with text := rest }
      pure ({ p with precision := some (precision.getD 0).toNat }, r)
    | _ => pure (p, r)
  let behind := match r.text with
    | 'h' :: rest => rest
    | 'l' :: rest => rest
    | 'L' :: rest => rest
    | rest => rest
  match behind with
  | [] => throw .badPlace
  | kind :: rest => return (p, kind, { r with text := rest })

/-! ## Texts of arguments -/

/-- Spaces up to the width of a place. -/
def justify (p : Place) (s : Text) : Text :=
  let gap := List.replicate (p.width - s.length) ' '
  if p.left then s ++ gap else gap ++ s

/-- A number laid out: a sign, the sign of the base, and the digits, with zeros between them
up to the width if that is asked for. -/
def numeral (p : Place) (negative : Bool) (base digits : Text) : Text :=
  let sign := if negative then ['-'] else if p.plus then ['+'] else if p.blank then [' '] else []
  let front := sign ++ base
  if p.zeros && !p.left then front ++ Text.padLeft (p.width - front.length) digits
  else justify p (front ++ digits)

/-- The integer part of a number. -/
def integer : Value → Filled Int
  | .scalar (.int i) => .ok i
  | .scalar (.bool b) => .ok (if b then 1 else 0)
  | .scalar (.float .nan) => .error .notANumber
  | .scalar (.float x) =>
    match x.truncate? with
    | some i => .ok i
    | none => .error .tooLarge
  | _ => .error .wrongKind

/-- An integer. -/
def exactInteger : Value → Filled Int
  | .scalar (.float _) => .error .wrongKind
  | v => integer v

/-- A number with a fraction. -/
def real : Value → Filled Binary64
  | .scalar (.int i) =>
    match Binary64.ofInt i with
    | .infinite _ => .error .tooLarge
    | x => .ok x
  | .scalar (.bool b) => .ok (.ofInt (if b then 1 else 0))
  | .scalar (.float x) => .ok x
  | _ => .error .wrongKind

/-- The digits of an integer, which the precision fills with zeros. -/
def wholeText (p : Place) (base : Nat) (baseSign : Text) (upper : Bool) (i : Int) : Text :=
  let digits := Text.padLeft (p.precision.getD 0) (Nat.toDigits base i.natAbs)
  numeral p (i < 0) (if p.alternate then baseSign else [])
    (if upper then digits.map Char.toUpper else digits)

/-- Is the number written with a minus sign? -/
def isNegative : Binary64 → Bool
  | .nan => false
  | .infinite s => s
  | .finite s _ _ => s

/-- A number with a fraction, whose magnitude is written in one of the three ways. -/
def realText (p : Place) (upper : Bool) (write : Bool → Nat → Nat → Nat → Text) (x : Binary64) :
    Text :=
  let magnitude := match x.fraction? with
    | some (num, den) => write p.alternate (p.precision.getD 6) num.natAbs den
    | none =>
      let word := if x = .nan then ['n', 'a', 'n'] else ['i', 'n', 'f']
      if upper then word.map Char.toUpper else word
  numeral p (isNegative x) [] magnitude

/-- A text cut to the precision. -/
def cutText (p : Place) (s : Text) : Text :=
  justify p (match p.precision with
    | some n => s.take n
    | none => s)

/-- A text with the characters outside ASCII escaped. -/
def asciiOnly (s : Text) : Text :=
  s.flatMap fun c =>
    let n := c.toNat
    if n < 0x80 then [c]
    else if n ≤ 0xFF then '\x5c' :: 'x' :: Text.hex 2 n
    else if n ≤ 0xFFFF then '\x5c' :: 'u' :: Text.hex 4 n
    else '\x5c' :: 'U' :: Text.hex 8 n

/-- The character that an argument is, or has the number of. -/
def character (v : Value) : Filled Char :=
  match v with
  | .scalar (.text [c]) => .ok c
  | v => do
    let i ← exactInteger v
    if 0 ≤ i ∧ i < 0x110000 then return Char.ofNat i.toNat else throw .tooLarge

/-- The text of an argument in a place of some kind. -/
def placeText (p : Place) (kind : Char) (v : Value) : Filled Text :=
  match kind with
  | 's' => .ok (cutText p v.spelling)
  | 'r' => .ok (cutText p v.literal)
  | 'a' => .ok (cutText p (asciiOnly v.literal))
  | 'c' => (fun c => justify p [c]) <$> character v
  | 'd' | 'i' | 'u' => wholeText p 10 [] false <$> integer v
  | 'o' => wholeText p 8 ['0', 'o'] false <$> exactInteger v
  | 'x' => wholeText p 16 ['0', 'x'] false <$> exactInteger v
  | 'X' => wholeText p 16 ['0', 'X'] true <$> exactInteger v
  | 'f' => realText p false Number.fixed <$> real v
  | 'F' => realText p true Number.fixed <$> real v
  | 'e' => realText p false (Number.scientific · 'e') <$> real v
  | 'E' => realText p true (Number.scientific · 'E') <$> real v
  | 'g' => realText p false (Number.general · 'e') <$> real v
  | 'G' => realText p true (Number.general · 'E') <$> real v
  | _ => .error .badPlace

/-! ## Messages -/

/-- The key in parentheses at the front, which may hold parentheses itself, and what is
behind it. The number counts the parentheses that are open. -/
def keyAt : Nat → Text → Option (Text × Text)
  | _, [] => none
  | depth, c :: r =>
    if c = ')' ∧ depth = 0 then some ([], r)
    else
      let depth := if c = '(' then depth + 1 else if c = ')' then depth - 1 else depth
      (keyAt depth r).map fun (key, rest) => (c :: key, rest)

/-- The argument of a place that names a key takes the place of those that are left. -/
def selectKey (named : List (Value × Value)) (r : Remaining) : Filled Remaining :=
  match r.text with
  | '(' :: rest =>
    if named.isEmpty then .error .wrongKind
    else
      match keyAt 0 rest with
      | none => .error .badPlace
      | some (key, rest) =>
        match named.find? fun e => e.1.same (.ofText key) with
        | some e => .ok ⟨rest, [e.2]⟩
        | none => .error .missingKey
  | _ => .ok r

/-- Fill the places of a message. The count bounds the places, each of which has a percent
sign of its own. -/
def fillPlaces (named : List (Value × Value)) : Nat → Remaining → Filled Text
  | 0, r => .ok r.text
  | n + 1, r =>
    match r.text.dropWhile (· != '%') with
    | [] => if r.arguments.isEmpty || !named.isEmpty then .ok r.text else .error .tooMany
    | '%' :: '%' :: rest => do
      return r.text.takeWhile (· != '%') ++ '%' :: (← fillPlaces named n { r with text := rest })
    | _ :: rest => do
      let front := r.text.takeWhile (· != '%')
      let (p, kind, r) ← place (← selectKey named { r with text := rest })
      let (v, r) ← r.argument
      return front ++ (← placeText p kind v) ++ (← fillPlaces named n r)

/-- A message with its arguments. Without arguments a percent sign means nothing. -/
def withArguments (message : Text) (arguments : List Value) : Filled Text :=
  match arguments with
  | [] => .ok message
  | [.dict (e :: es)] => fillPlaces (e :: es) (message.length + 1) ⟨message, [.dict (e :: es)]⟩
  | vs => fillPlaces [] (message.length + 1) ⟨message, vs⟩

end Phrasebook.Log
