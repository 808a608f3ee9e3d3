import Phrasebook.Command.Usage
import Phrasebook.Text.Class
import Phrasebook.Text.Quoted

/-!
# The arguments of the command

Arguments are read in two steps. First each is looked at on its own: it is an option, the
separator behind which there are no options, or plain. A long form may be shortened as long
as it fits one option only, and has its value behind an equals sign or in the next argument.
Letters may be written together up to the first that takes a value, which is the rest of the
argument or the next one; an equals sign is set off only behind the first letter. Then the
arguments are taken from left to right. The first plain one that is no value is the key; what
is left over is refused in the end, after what is missing. Help ends the reading where it is
met. The separator is no value: an option with the separator behind it is given nothing.
-/

namespace Phrasebook.Command

/-- What is wrong with the arguments. -/
inductive UsageFault where
  /-- A long form fits several options. -/
  | ambiguous (argument : Text) (fitting : List Switch)
  /-- An option lacks its value. -/
  | noValue (s : Switch)
  /-- An option that takes no value has one. -/
  | unwantedValue (s : Switch) (value : Text)
  /-- Options that have to be given are not there. -/
  | missing (ss : List Switch)
  /-- Arguments are left over. -/
  | leftOver (arguments : List Text)
  deriving DecidableEq, Repr

/-- The wording of a fault. -/
def UsageFault.message : UsageFault → Text
  | .ambiguous argument fitting =>
    "ambiguous option: ".toList ++ argument ++ " could match ".toList ++
      Text.joinWith [',', ' '] (fitting.map Switch.longForm)
  | .noValue s => "argument ".toList ++ s.title ++ ": expected one argument".toList
  | .unwantedValue s value =>
    "argument ".toList ++ s.title ++ ": ignored explicit argument ".toList ++ Text.quoted value
  | .missing ss =>
    "the following arguments are required: ".toList ++
      Text.joinWith [',', ' '] (ss.map Switch.title)
  | .leftOver arguments =>
    "unrecognized arguments: ".toList ++ Text.joinWith [' '] arguments

/-- What is written when the arguments are refused. -/
def UsageFault.report (f : UsageFault) : Text :=
  usage ++ commandName ++ ": error: ".toList ++ f.message ++ ['\n']

/-! ## Single arguments -/

/-- What an argument is on its own. -/
inductive Word where
  | plain
  /-- The letter of an option, with what is written behind it if there is something. -/
  | letter (s : Switch) (behind : Option Text)
  /-- A long form, with the value behind the equals sign if there is one. -/
  | long (s : Switch) (value : Option Text)
  | unknown
  | separator
  deriving DecidableEq, Repr

/-- The argument behind which there are no options. -/
def bareDashes : Text := ['-', '-']

/-- A text up to the first equals sign, and what is behind the sign. -/
def cutAtEquals (s : Text) : Text × Option Text :=
  match Text.splitAtMost '=' 1 s with
  | [front, behind] => (front, some behind)
  | _ => (s, none)

/-- Is what follows a dash a decimal number without an exponent? A line end may follow it. -/
def isNumber (s : Text) : Bool :=
  let s := if s.getLast? = some '\n' then s.dropLast else s
  let isDigit (c : Char) := (Text.decimal? c).isSome
  match s.dropWhile isDigit with
  | [] => !s.isEmpty
  | '.' :: digits => !digits.isEmpty && digits.all isDigit
  | _ => false

/-- What an argument is that fits no option: plain if it is a negative number or has a space
in it. -/
def Word.ofStranger (behindDash argument : Text) : Word :=
  if isNumber behindDash || argument.contains ' ' then .plain else .unknown

/-- What is written behind the letter of an option. An equals sign sets it off. -/
def behindLetter : Text → Option Text
  | [] => none
  | '=' :: value => some value
  | behind => some behind

/-- What an argument is, unless it is the separator. -/
def Word.ofArgument (argument : Text) : Except UsageFault Word :=
  match argument with
  | '-' :: '-' :: rest =>
    let (form, value) := cutAtEquals argument
    match Switch.ofLongForm? form, Switch.startingWith form with
    | some s, _ => .ok (.long s value)
    | none, [] => .ok (.ofStranger ('-' :: rest) argument)
    | none, [s] => .ok (.long s value)
    | none, fitting => .error (.ambiguous argument fitting)
  | '-' :: c :: rest =>
    match Switch.ofLetter? c with
    | some s => .ok (.letter s (behindLetter rest))
    | none => .ok (.ofStranger (c :: rest) argument)
  | _ => .ok .plain

/-- What the arguments are; behind the separator all are plain. -/
def Word.ofArguments : List Text → Except UsageFault (List (Text × Word))
  | [] => .ok []
  | argument :: rest =>
    if argument = bareDashes then
      .ok ((argument, .separator) :: rest.map fun a => (a, .plain))
    else do
      let word ← Word.ofArgument argument
      return (argument, word) :: (← Word.ofArguments rest)

/-! ## Taking the arguments in -/

/-- What an option is given for its value. -/
inductive Given where
  | text (t : Text)
  | nothing
  deriving DecidableEq, Repr

namespace Given

/-- What a written value gives. -/
def ofText (t : Text) : Given := if t = bareDashes then .nothing else .text t

/-- The text, which is empty where nothing is given. -/
def getText : Given → Text
  | .text t => t
  | .nothing => []

/-- The spelling in a message. -/
def spelling : Given → Text
  | .text t => t
  | .nothing => "[]".toList

/-- The quoted spelling in a message. -/
def literal : Given → Text
  | .text t => Text.quoted t
  | .nothing => "[]".toList

end Given

/-- The options that one argument gives. -/
structure Cluster where
  /-- Options with what they are given; one that takes no value is given nothing. -/
  given : List (Switch × Given) := []
  /-- An option whose value is the next argument. -/
  open? : Option Switch := none

/-- An option with a value, or without one. -/
def Cluster.ofSwitch (s : Switch) (value : Option Text) : Except UsageFault Cluster :=
  match s.takesValue, value with
  | true, some v => .ok { given := [(s, .ofText v)] }
  | true, none => .ok { open? := some s }
  | false, some v => .error (.unwantedValue s v)
  | false, none => .ok { given := [(s, .nothing)] }

/-- The options that a letter gives with the text behind it, which is its value or starts with
the next letter. -/
def Cluster.ofLetters (s : Switch) : Text → Except UsageFault Cluster
  | [] => Cluster.ofSwitch s none
  | c :: rest =>
    match s.takesValue, Switch.ofLetter? c with
    | false, some t => do
      let more ← Cluster.ofLetters t rest
      return { more with given := (s, .nothing) :: more.given }
    | _, _ => Cluster.ofSwitch s (some (c :: rest))

/-- The options that a letter gives with what is written behind it. -/
def Cluster.ofLetter (s : Switch) : Option Text → Except UsageFault Cluster
  | none => Cluster.ofSwitch s none
  | some [] => Cluster.ofSwitch s (some [])
  | some behind => Cluster.ofLetters s behind

/-- The options that a word gives; none if it is no option. -/
def Word.cluster? : Word → Option (Except UsageFault Cluster)
  | .letter s behind => some (Cluster.ofLetter s behind)
  | .long s value => some (Cluster.ofSwitch s value)
  | _ => none

/-- Why the reading ends early. -/
inductive Stop where
  | help
  | fault (f : UsageFault)
  deriving DecidableEq, Repr

/-- What was read of the arguments. -/
structure Reading where
  /-- The options in the order in which they were given. -/
  given : List (Switch × Given) := []
  key : Option Text := none
  leftOver : List Text := []
  deriving DecidableEq, Repr

namespace Reading

/-- Take options in. Help ends the reading. -/
def give (r : Reading) (c : Cluster) : Except Stop Reading :=
  if c.given.any fun g => g.1 == .help then .error .help
  else .ok { r with given := r.given ++ c.given }

/-- Take in the arguments that follow. The key swallows a separator next to it. -/
def take (r : Reading) : List (Text × Word) → Except Stop Reading
  | [] => .ok r
  | (argument, .plain) :: rest =>
    match r.key, rest with
    | none, (_, .separator) :: rest => take { r with key := some argument } rest
    | none, rest => take { r with key := some argument } rest
    | some _, rest => take { r with leftOver := r.leftOver ++ [argument] } rest
  | (argument, .separator) :: rest =>
    if r.key.isNone then take r rest
    else take { r with leftOver := r.leftOver ++ [argument] } rest
  | (argument, word) :: rest =>
    match word.cluster? with
    | none => take { r with leftOver := r.leftOver ++ [argument] } rest
    | some (.error f) => .error (.fault f)
    | some (.ok c) =>
      match c.open?, rest with
      | none, rest =>
        match r.give c with
        | .ok r => take r rest
        | .error stop => .error stop
      | some s, (value, .plain) :: rest =>
        match r.give { c with given := c.given ++ [(s, .text value)] } with
        | .ok r => take r rest
        | .error stop => .error stop
      | some s, _ => .error (.fault (.noValue s))

/-- The values that an option was given. -/
def values (r : Reading) (s : Switch) : List Given :=
  (r.given.filter fun g => g.1 == s).map Prod.snd

/-- Was the option given? -/
def has (r : Reading) (s : Switch) : Bool := r.given.any fun g => g.1 == s

/-- The options that have to be given and are not. -/
def missing (r : Reading) : List Switch := Switch.all.filter fun s => s.isRequired && !r.has s

end Reading

/-! ## Requests -/

/-- What a run is asked for. -/
structure Settings where
  directory : Given
  name : Given
  append : List Given := []
  language : Given := .text ['e', 'n']
  fallback : Option Given := none
  fields : List Given := []
  template : Option Given := none
  segments : Bool := false
  jsonLogs : Bool := false
  verbose : Bool := false
  key : Option Text := none
  deriving DecidableEq, Repr

/-- The settings that were read. Of an option that is given again the last value counts,
except where values are gathered. -/
def Settings.ofReading (r : Reading) : Settings :=
  { directory := (r.values .directory).getLast?.getD .nothing
    name := (r.values .name).getLast?.getD .nothing
    append := r.values .append
    language := (r.values .language).getLast?.getD (.text ['e', 'n'])
    fallback := (r.values .fallback).getLast?
    fields := r.values .field
    template := (r.values .template).getLast?
    segments := r.has .segments
    jsonLogs := r.has .jsonLogs
    verbose := r.has .verbose
    key := r.key }

/-- What the command is asked to do. -/
inductive Request where
  | help
  | run (settings : Settings)
  deriving DecidableEq, Repr

/-- What was read, unless something is missing or left over. -/
def Reading.request (r : Reading) : Except UsageFault Request :=
  match r.missing, r.leftOver with
  | s :: ss, _ => .error (.missing (s :: ss))
  | [], a :: more => .error (.leftOver (a :: more))
  | [], [] => .ok (.run (.ofReading r))

/-- Read the arguments of the command. -/
def Request.read (arguments : List Text) : Except UsageFault Request :=
  match Word.ofArguments arguments with
  | .error f => .error f
  | .ok words =>
    match ({} : Reading).take words with
    | .ok r => r.request
    | .error .help => .ok .help
    | .error (.fault f) => .error f

end Phrasebook.Command
