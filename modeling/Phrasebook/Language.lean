import Phrasebook.Text.Case

/-!
# Languages

The languages that files can be written in, with the abbreviations that stand in file names.
English is the language that is used where none is named.
-/

namespace Phrasebook

/-- A supported language. -/
inductive Language where
  | english | german | spanish | french | italian | dutch | portuguese | polish | russian
  | swedish | turkish | chinese | japanese | korean
  deriving DecidableEq, Repr

namespace Language

/-- All languages in their order. -/
def all : List Language :=
  [.english, .german, .spanish, .french, .italian, .dutch, .portuguese, .polish, .russian,
   .swedish, .turkish, .chinese, .japanese, .korean]

/-- The name of a language. -/
def name : Language → Text
  | .english => "ENGLISH".toList
  | .german => "GERMAN".toList
  | .spanish => "SPANISH".toList
  | .french => "FRENCH".toList
  | .italian => "ITALIAN".toList
  | .dutch => "DUTCH".toList
  | .portuguese => "PORTUGUESE".toList
  | .polish => "POLISH".toList
  | .russian => "RUSSIAN".toList
  | .swedish => "SWEDISH".toList
  | .turkish => "TURKISH".toList
  | .chinese => "CHINESE".toList
  | .japanese => "JAPANESE".toList
  | .korean => "KOREAN".toList

/-- The abbreviation of a language. -/
def abbreviation : Language → Text
  | .english => ['e', 'n']
  | .german => ['d', 'e']
  | .spanish => ['e', 's']
  | .french => ['f', 'r']
  | .italian => ['i', 't']
  | .dutch => ['n', 'l']
  | .portuguese => ['p', 't']
  | .polish => ['p', 'l']
  | .russian => ['r', 'u']
  | .swedish => ['s', 'v']
  | .turkish => ['t', 'r']
  | .chinese => ['z', 'h']
  | .japanese => ['j', 'a']
  | .korean => ['k', 'o']

/-- The language with an abbreviation, in any case and with white space around it. -/
def ofAbbreviation? (s : Text) : Option Language :=
  all.find? fun l => l.abbreviation == Text.lower (Text.trim s)

/-- The language used where none is named. -/
def default : Language := .english

/-- Every language is found by its abbreviation. -/
theorem ofAbbreviation?_abbreviation (l : Language) : ofAbbreviation? l.abbreviation = some l := by
  cases l <;> decide

end Language

end Phrasebook
