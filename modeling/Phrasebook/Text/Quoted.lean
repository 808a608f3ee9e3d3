import Phrasebook.Text.Printable

/-!
# Quoted texts

A text inside a message is written between quotes, so that its ends and its hidden
characters can be seen. Single quotes are used unless the text has a single quote and no
double quote; the quote in use and the backslash are escaped, and so is every character
that would not show.
-/

namespace Phrasebook.Text

/-- The quote a text is written in. -/
def quoteFor (s : Text) : Char :=
  if s.contains '\x27' && !s.contains '"' then '"' else '\x27'

/-- A character between quotes. -/
def quotedChar (quote c : Char) : Text :=
  if c = quote ∨ c = '\x5c' then ['\x5c', c]
  else if c = '\t' then ['\x5c', 't']
  else if c = '\n' then ['\x5c', 'n']
  else if c = '\r' then ['\x5c', 'r']
  else if isPrintable c then [c]
  else if c.toNat ≤ 0xFF then '\x5c' :: 'x' :: hex 2 c.toNat
  else if c.toNat ≤ 0xFFFF then '\x5c' :: 'u' :: hex 4 c.toNat
  else '\x5c' :: 'U' :: hex 8 c.toNat

/-- A text between quotes, with what would not show escaped. -/
def quoted (s : Text) : Text :=
  quoteFor s :: s.flatMap (quotedChar (quoteFor s)) ++ [quoteFor s]

end Phrasebook.Text
