import Phrasebook.Command.Switch

/-!
# Usage and help

The usage shows every option once, in brackets unless it has to be given, and then the key;
it is filled into lines of limited width. The help adds what each option is for, in groups:
the purpose starts at a fixed column, on a line of its own if the forms reach too far.
-/

namespace Phrasebook.Command

/-- The name of the command. -/
def commandName : Text := "langpack".toList

/-- The width of the lines of the usage. -/
def lineWidth : Nat := 78

/-- The column at which the purpose of an option starts. -/
def purposeColumn : Nat := 24

/-- Put words behind the ones on a line, with a new line wherever the next word would stand
out. Every new line starts with the indent. -/
def fillLines (indent : Text) : (line : Text) → List Text → Text
  | line, [] => line
  | line, word :: rest =>
    if line.length + 1 + word.length ≤ lineWidth
    then fillLines indent (line ++ ' ' :: word) rest
    else line ++ '\n' :: fillLines indent (indent ++ word) rest

/-- One form of an option with the word for its value. -/
def withValueWord (s : Switch) (form : Text) : Text :=
  match s.valueWord? with
  | some word => form ++ ' ' :: word
  | none => form

/-- An option as the usage shows it. -/
def usagePart (s : Switch) : Text :=
  let shown := withValueWord s ((s.forms.head?).getD s.longForm)
  if s.isRequired then shown else '[' :: shown ++ [']']

/-- The usage. -/
def usage : Text :=
  let opening := "usage: ".toList ++ commandName
  let indent := List.replicate (opening.length + 1) ' '
  fillLines indent opening (Switch.all.map usagePart) ++ '\n' :: indent ++ "[KEY]\n".toList

/-- A line of the help: the forms of an option, or a name, and what it is for. -/
def helpLine (forms purpose : Text) : Text :=
  let start := ' ' :: ' ' :: forms
  let gap := if start.length + 2 ≤ purposeColumn
    then List.replicate (purposeColumn - start.length) ' '
    else '\n' :: List.replicate purposeColumn ' '
  start ++ gap ++ purpose ++ ['\n']

/-- The line of the help for an option. -/
def switchLine (s : Switch) : Text :=
  helpLine (Text.joinWith [',', ' '] (s.forms.map (withValueWord s))) s.purpose

/-- A group of options in the help. -/
def helpGroup (title : Text) (switches : List Switch) : Text :=
  '\n' :: title ++ ":\n".toList ++ switches.flatMap switchLine

/-- The help. -/
def help : Text :=
  usage ++ "\nlangpack – expand localized strings from a language package\n".toList ++
    "Prints the processed entry for KEY, or the rendered --template.\n".toList ++
    "\npositional arguments:\n".toList ++
    helpLine "KEY".toList "Entry key to process.".toList ++
    helpGroup "options".toList [.help] ++
    helpGroup "Package".toList [.directory, .name, .append, .language, .fallback] ++
    helpGroup "Output".toList [.field, .template, .segments] ++
    helpGroup "Miscellaneous".toList [.jsonLogs, .verbose]

end Phrasebook.Command
