import Phrasebook.Log.Record
import Phrasebook.Text.Json

/-!
# Log lines

A record is written as the name of its level and its message, or as one object in the
interchange notation, with the time in universal time to the millisecond. The time is given
in seconds since 1970; it is rounded to the microsecond and then cut.
-/

namespace Phrasebook.Log

/-- How records are written. -/
inductive Format where
  | plain
  | json
  deriving DecidableEq, Repr

/-- Why a count of seconds is no time that can be written. -/
inductive TimeFault where
  | notANumber
  | tooLarge
  /-- The year does not fit where it is kept. -/
  | yearTooLarge
  /-- The year is not between 1 and 9999. -/
  | yearOutOfRange
  | wrongKind
  deriving DecidableEq, Repr

/-- Whole seconds and microseconds of a count of seconds. The microseconds are the product of
the fraction and a million, rounded like any product, and then to the nearest whole number. -/
def splitSeconds (x : Binary64) : Option (Int × Nat) :=
  match x, x.truncate? with
  | .finite negative m e, some whole =>
    let (num, den) := Binary64.magnitude m e
    let part := Binary64.round negative (num % den * 1000000) den
    match part.fraction? with
    | some (n, d) =>
      let micros : Int := Binary64.divEven n.natAbs d
      let micros := if negative then -micros else micros
      let carried := if 1000000 ≤ micros then (whole + 1, micros - 1000000)
        else if micros < 0 then (whole - 1, micros + 1000000) else (whole, micros)
      some (carried.1, carried.2.toNat)
    | none => none
  | _, _ => none

/-- Seconds and microseconds of a value. -/
def secondsOf : Value → Except TimeFault (Int × Nat)
  | .scalar (.int i) => .ok (i, 0)
  | .scalar (.bool b) => .ok (if b then 1 else 0, 0)
  | .scalar (.float .nan) => .error .notANumber
  | .scalar (.float x) =>
    match splitSeconds x with
    | some s => .ok s
    | none => .error .tooLarge
  | _ => .error .wrongKind

/-- A time as it stands in log lines. -/
def timestamp (created : Value) : Except TimeFault Text := do
  let (seconds, micros) ← secondsOf created
  if seconds < -0x8000000000000000 ∨ 0x8000000000000000 ≤ seconds then throw .tooLarge
  let day := seconds.fdiv 86400
  let rest := (seconds - day * 86400).toNat
  let (year, month, dayOfMonth) := Date.ofEpochDay day
  if year < -2147481748 ∨ 2147485547 < year then throw .yearTooLarge
  if year < 1 ∨ 9999 < year then throw .yearOutOfRange
  return (⟨year.toNat, month, dayOfMonth⟩ : Date).write ++ 'T' ::
    Moment.clock (rest / 3600) (rest / 60 % 60) (rest % 60) ++
    '.' :: Text.padLeft 3 (Text.ofNat (micros / 1000)) ++ ['Z']

/-- The version that log lines carry where the library's own is not known: that of the
environment, or none. -/
def fallbackVersion (environment : Option Text) : Text :=
  environment.getD "unknown".toList

/-- The context of a record, where it is a dictionary with entries. -/
def contextMembers : Value → List (Text × Json)
  | .dict (e :: es) => [("ctx".toList, Json.ofValue (.dict (e :: es)))]
  | _ => []

/-- A record in the interchange notation. -/
def jsonLine (stamp version : Text) (r : Record) : Text :=
  (Json.object ([("ts".toList, .text stamp), ("level".toList, .text (levelName r.level)),
    ("module".toList, .text r.logger), ("msg".toList, .text r.message),
    ("version".toList, .text version)] ++ contextMembers r.context)).write

/-- A record in plain text. -/
def plainLine (r : Record) : Text := levelName r.level ++ ':' :: ' ' :: r.message

/-- A record in a format. -/
def Format.line (f : Format) (stamp : Text) (r : Record) : Text :=
  match f with
  | .plain => plainLine r
  | .json => jsonLine stamp version r

end Phrasebook.Log
