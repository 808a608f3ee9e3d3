import Phrasebook.Text.Case
import Phrasebook.Text.Json

/-!
# Rich text

A line of rich text has markers, each of which is an operator and its arguments between
`[@` and `]`, separated by colons. `Markup.read` takes a line apart into plain stretches and
the bodies of markers; it never fails, but may stop at a marker inside a marker or at the
end of the line. `Markup.segments` interprets the parts from left to right: the first fault
is the answer. Plain stretches keep their text, and a marker becomes a segment with an
action.
-/

namespace Phrasebook

/-- What an action does. -/
inductive ActionKind where
  | runCommand
  | hover
  deriving DecidableEq, Repr

namespace ActionKind

/-- All kinds in their order. -/
def all : List ActionKind := [.runCommand, .hover]

/-- The name of a kind. -/
def name : ActionKind → Text
  | .runCommand => "RUN_COMMAND".toList
  | .hover => "HOVER".toList

/-- The word for a kind in a written segment. -/
def word : ActionKind → Text
  | .runCommand => "run_command".toList
  | .hover => "hover".toList

end ActionKind

/-- What happens when a segment is clicked. -/
structure Action where
  kind : ActionKind
  payload : Text
  deriving DecidableEq, Repr

/-- A stretch of text, with an action or without. -/
structure Segment where
  text : Text
  action : Option Action := none
  deriving DecidableEq, Repr

/-- A segment in the interchange notation; the action is left out where there is none. -/
def Segment.toJson (s : Segment) : Json :=
  .object (("text".toList, .text s.text) ::
    match s.action with
    | none => []
    | some a =>
      [("action".toList, .object [("kind".toList, .text a.kind.word),
        ("payload".toList, .text a.payload)])])

/-- What is wrong with a line of rich text. -/
inductive MarkupFault where
  /-- A marker starts inside a marker. -/
  | nested (offset : Nat)
  /-- A marker has no colon. -/
  | noOperator
  /-- A marker has an operator that does not exist. -/
  | unknownOperator (operator : Text)
  /-- A marker has the wrong number of arguments. -/
  | arity (operator : Text) (expected given : Nat)
  /-- A marker is not closed. -/
  | unterminated
  deriving DecidableEq, Repr

/-- The wording of a fault in a line. -/
def MarkupFault.message (line : Text) : MarkupFault → Text
  | .nested offset =>
    "nested marker at offset ".toList ++ Text.ofNat offset ++ " in line: ".toList ++
      Text.quoted line
  | .noOperator => "invalid operation format for line: ".toList ++ Text.quoted line
  | .unknownOperator op => "the operator '@".toList ++ op ++ "' is unknown".toList
  | .arity op expected given =>
    "the operator '@".toList ++ op ++ "' takes ".toList ++ Text.ofNat expected ++
      " arguments (".toList ++ Text.ofNat given ++ " provided)".toList
  | .unterminated => "unterminated marker in line: ".toList ++ Text.quoted line

/-- A line taken apart. -/
inductive Markup where
  /-- Plain text up to the end. -/
  | ends (plain : Text)
  /-- Plain text, then a marker that is not closed. -/
  | unterminated (plain : Text)
  /-- Plain text, then a marker in which another one starts. -/
  | nested (plain : Text) (offset : Nat)
  /-- Plain text, then a marker with its body, then the rest. -/
  | marker (plain body : Text) (rest : Markup)
  deriving DecidableEq, Repr

namespace Markup

/-- A character before the plain text at the front. -/
def consPlain (c : Char) : Markup → Markup
  | ends plain => ends (c :: plain)
  | unterminated plain => unterminated (c :: plain)
  | nested plain offset => nested (c :: plain) offset
  | marker plain body rest => marker (c :: plain) body rest

/-- What follows the start of a marker. -/
inductive Opened where
  | closed (body : Text) (rest : Markup)
  | nested (offset : Nat)
  | unterminated

/-- A character before the body. -/
def Opened.consBody (c : Char) : Opened → Opened
  | closed body rest => closed (c :: body) rest
  | nested offset => nested offset
  | unterminated => unterminated

/-- The line that starts with a marker. -/
def ofOpened : Opened → Markup
  | .closed body rest => marker [] body rest
  | .nested offset => nested [] offset
  | .unterminated => unterminated []

mutual

/-- Take plain text apart that starts at an offset of the line. -/
def readPlain (offset : Nat) : Text → Markup
  | [] => ends []
  | '[' :: '@' :: rest => ofOpened (readBody (offset + 2) rest)
  | c :: rest => consPlain c (readPlain (offset + 1) rest)

/-- Take the body of a marker apart that starts at an offset of the line. -/
def readBody (offset : Nat) : Text → Opened
  | [] => .unterminated
  | '[' :: '@' :: _ => .nested offset
  | ']' :: rest => .closed [] (readPlain (offset + 1) rest)
  | c :: rest => (readBody (offset + 1) rest).consBody c

end

/-- Take a line apart. -/
def read (line : Text) : Markup := readPlain 0 line

/-- The number of arguments of an operator. -/
def arity? (operator : Text) : Option Nat :=
  if operator = "command".toList ∨ operator = "hover".toList then some 2 else none

/-- The segment that a marker with this body stands for. -/
def interpret (body : Text) : Except MarkupFault Segment :=
  match Text.splitOn ':' body with
  | operator :: first :: others =>
    let operator := Text.lower (Text.trim operator)
    let arguments := (first :: others).map Text.trim
    match arity? operator, arguments with
    | none, _ => .error (.unknownOperator operator)
    | some _, [payload, text] => .ok ⟨text, some ⟨.runCommand, payload⟩⟩
    | some n, arguments => .error (.arity operator n arguments.length)
  | _ => .error .noOperator

/-- The segment of a plain stretch, unless it is empty. -/
def plainSegment (plain : Text) : List Segment :=
  if plain.isEmpty then [] else [⟨plain, none⟩]

/-- The segments of a line, or its first fault. -/
def segments : Markup → Except MarkupFault (List Segment)
  | ends plain => .ok (plainSegment plain)
  | unterminated _ => .error .unterminated
  | nested _ offset => .error (.nested offset)
  | marker plain body rest => do
    let segment ← interpret body
    let others ← segments rest
    return plainSegment plain ++ segment :: others

end Markup

/-- The segments of a line of rich text. -/
def segment (line : Text) : Except MarkupFault (List Segment) := (Markup.read line).segments

end Phrasebook
