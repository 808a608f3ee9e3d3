import Phrasebook.Text.Case

/-!
# Chat colours

A colour or format of a chat line is the section sign and a code character. Strings are
written with an alternate sign, usually an ampersand, which `translate` replaces where a
code follows it. The replacement runs from left to right over the text that it changes, so
`translateFrom` carries the character that the last step left at the present position.
-/

namespace Phrasebook

namespace Color

/-- The sign that starts a colour in a chat line. -/
def sign : Char := '§'

/-- The sign that starts a colour in a language file. -/
def alternateSign : Text := ['&']

/-- The characters that name a colour or a format. -/
def codes : Text := "0123456789AaBbCcDdEeFfKkLlMmNnOoRrXx".toList

/-- Does the character name a colour or a format? -/
def isCode (c : Char) : Bool := codes.contains c

/-- Replace from the character `c` on, which stands before `rest`. -/
def translateFrom (alt : Char) (c : Char) : Text → Text
  | [] => [c]
  | d :: rest =>
    if c = alt ∧ isCode d then sign :: translateFrom alt d.toLower rest
    else c :: translateFrom alt d rest

/-- Replace an alternate sign before a code by the section sign and make the code small.
An alternate sign that is not one character occurs nowhere. -/
def translate (alt : Text) (s : Text) : Text :=
  match alt, s with
  | [a], c :: rest => translateFrom a c rest
  | _, s => s

end Color

/-- The colours and formats, in their order. -/
inductive ChatColor where
  | black | darkBlue | darkGreen | darkAqua | darkRed | darkPurple | gold | gray | darkGray
  | blue | green | aqua | red | lightPurple | yellow | white
  | magic | bold | strikethrough | underline | italic | reset
  deriving DecidableEq, Repr

namespace ChatColor

/-- All colours and formats in their order. -/
def all : List ChatColor :=
  [.black, .darkBlue, .darkGreen, .darkAqua, .darkRed, .darkPurple, .gold, .gray, .darkGray,
   .blue, .green, .aqua, .red, .lightPurple, .yellow, .white,
   .magic, .bold, .strikethrough, .underline, .italic, .reset]

/-- The name of the colour. -/
def name : ChatColor → String
  | .black => "BLACK" | .darkBlue => "DARK_BLUE" | .darkGreen => "DARK_GREEN"
  | .darkAqua => "DARK_AQUA" | .darkRed => "DARK_RED" | .darkPurple => "DARK_PURPLE"
  | .gold => "GOLD" | .gray => "GRAY" | .darkGray => "DARK_GRAY" | .blue => "BLUE"
  | .green => "GREEN" | .aqua => "AQUA" | .red => "RED" | .lightPurple => "LIGHT_PURPLE"
  | .yellow => "YELLOW" | .white => "WHITE" | .magic => "MAGIC" | .bold => "BOLD"
  | .strikethrough => "STRIKETHROUGH" | .underline => "UNDERLINE" | .italic => "ITALIC"
  | .reset => "RESET"

/-- The character that names the colour. -/
def code : ChatColor → Char
  | .black => '0' | .darkBlue => '1' | .darkGreen => '2' | .darkAqua => '3'
  | .darkRed => '4' | .darkPurple => '5' | .gold => '6' | .gray => '7'
  | .darkGray => '8' | .blue => '9' | .green => 'a' | .aqua => 'b' | .red => 'c'
  | .lightPurple => 'd' | .yellow => 'e' | .white => 'f' | .magic => 'k' | .bold => 'l'
  | .strikethrough => 'm' | .underline => 'n' | .italic => 'o' | .reset => 'r'

/-- The two characters that switch to the colour. -/
def switch (c : ChatColor) : Text := [Color.sign, c.code]

/-- The entries that every English file starts with: colours by name. -/
def entries : List (Text × Text) :=
  [("black", switch .black), ("blue", switch .darkBlue), ("green", switch .darkGreen),
   ("cyan", switch .darkAqua), ("aqua", switch .darkAqua), ("red", switch .darkRed),
   ("purple", switch .darkPurple), ("pink", switch .lightPurple), ("gold", switch .gold),
   ("gray", switch .darkGray), ("light_gray", switch .gray), ("light_blue", switch .blue),
   ("light_green", switch .green), ("light_cyan", switch .aqua), ("light_aqua", switch .aqua),
   ("light_red", switch .red), ("light_purple", switch .lightPurple),
   ("yellow", switch .yellow), ("white", switch .white), ("magic", switch .magic),
   ("bold", switch .bold), ("strike", switch .strikethrough),
   ("underline", switch .underline), ("italic", switch .italic), ("reset", switch .reset),
   ("color_code", [Color.sign])].map fun e => (e.1.toList, e.2)

end ChatColor

end Phrasebook
