import Phrasebook.Text.Basic

/-!
# The options of the command

An option has a long name, most have a letter, and some take a value. Here stands what the
rest of the command needs to know of each: how it may be written, the word that its value
goes by, whether it has to be given, and what the help says about it.
-/

namespace Phrasebook.Command

/-- An option of the command. -/
inductive Switch where
  | help | directory | name | append | language | fallback | field | template | segments
  | jsonLogs | verbose
  deriving DecidableEq, Repr

namespace Switch

/-- All options in their order. -/
def all : List Switch :=
  [.help, .directory, .name, .append, .language, .fallback, .field, .template, .segments,
   .jsonLogs, .verbose]

/-- The letter of an option. -/
def letter? : Switch → Option Char
  | .help => some 'h'
  | .directory => some 'd'
  | .name => some 'n'
  | .append => none
  | .language => some 'l'
  | .fallback => none
  | .field => some 'f'
  | .template => some 't'
  | .segments => some 's'
  | .jsonLogs => none
  | .verbose => some 'v'

/-- The long form of an option, with its dashes. -/
def longForm : Switch → Text
  | .help => "--help".toList
  | .directory => "--dir".toList
  | .name => "--name".toList
  | .append => "--append".toList
  | .language => "--lang".toList
  | .fallback => "--fallback".toList
  | .field => "--field".toList
  | .template => "--template".toList
  | .segments => "--segments".toList
  | .jsonLogs => "--json-logs".toList
  | .verbose => "--verbose".toList

/-- The word that the value of an option goes by, if it takes one. -/
def valueWord? : Switch → Option Text
  | .directory => some "DIR".toList
  | .name => some "NAME".toList
  | .append => some "NAME".toList
  | .language => some "ABBR".toList
  | .fallback => some "ABBR".toList
  | .field => some "KEY=VALUE".toList
  | .template => some "TEXT".toList
  | _ => none

/-- Does the option take a value? -/
def takesValue (s : Switch) : Bool := s.valueWord?.isSome

/-- Has the option to be given? -/
def isRequired : Switch → Bool
  | .directory => true
  | .name => true
  | _ => false

/-- What the help says about an option. -/
def purpose : Switch → Text
  | .help => "show this help message and exit".toList
  | .directory => "Directory holding the <name>_<abbr>.yml files.".toList
  | .name => "Package name (file-name prefix).".toList
  | .append => "Append another package of the same directory. Repeatable.".toList
  | .language => "Language abbreviation (default: en).".toList
  | .fallback => "Language consulted for keys missing from --lang.".toList
  | .field => "Field override passed to the expansion. Repeatable.".toList
  | .template => "Render TEXT instead of looking up KEY.".toList
  | .segments => "Print rich text segments as JSON lines.".toList
  | .jsonLogs => "Emit logs as JSON.".toList
  | .verbose => "Debug logging.".toList

/-- The forms of an option, that with the letter first. -/
def forms (s : Switch) : List Text :=
  (s.letter?.map fun c => ['-', c]).toList ++ [s.longForm]

/-- The option with a letter. -/
def ofLetter? (c : Char) : Option Switch := all.find? fun s => s.letter? == some c

/-- The option with a long form. -/
def ofLongForm? (form : Text) : Option Switch := all.find? fun s => s.longForm == form

/-- The options whose long form starts with a text. -/
def startingWith (start : Text) : List Switch := all.filter fun s => start.isPrefixOf s.longForm

/-- An option as messages name it. -/
def title (s : Switch) : Text := Text.joinWith ['/'] s.forms

end Switch

end Phrasebook.Command
