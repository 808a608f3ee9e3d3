import Phrasebook.Command.Session
import Std.Time.DateTime.Timestamp

/-!
# The command line

The command as a program: it finds out what a run has to know of the world, runs, and writes
what the run shows.
-/

namespace Phrasebook.Command

/-- What stands in a folder; the folders in it are not entered. -/
def readFolder (path : String) : IO (Option Tree) := do
  let folder := (← IO.currentDir) / path
  unless ← folder.isDir do return none
  let trees ← (← folder.readDir).toList.mapM fun entry => do
    let inner : Tree ← if ← entry.path.isDir then pure (.folder [])
      else (.file ∘ .octets) <$> IO.FS.readBinFile entry.path
    return (entry.fileName.toList, inner)
  return some (.folder trees)

/-- The tree that a run with some arguments has to know. -/
def readTree (arguments : List Text) : IO Tree := do
  match Request.read arguments with
  | .ok (.run settings) =>
    let directory := settings.directory.getText
    match ← readFolder (String.ofList directory) with
    | some folder => return folder.holding directory
    | none => return .folder []
  | _ => return .folder []

/-- The value of a variable, if it is one that the command looks at. -/
def readVariables : IO (Text → Option Text) := do
  let known ← ["LANGPACK_JSON_LOGS", "LANGPACK_TRACE", "DEBUG"].mapM fun name => do
    return (name.toList, (← IO.getEnv name).map String.toList)
  return fun name => (known.lookup name).join

/-- The time as it stands in log lines. -/
def readStamp : IO Text := do
  let now ← Std.Time.Timestamp.now
  let seconds := Binary64.ofDecimal false now.toNanosecondsSinceUnixEpoch.toInt.toNat (-9)
  return (Log.timestamp (.scalar (.float seconds))).toOption.getD []

/-- The world of a run. -/
def readWorld (arguments : List Text) : IO World := do
  let draws ← (List.range 1024).mapM fun _ => Int.ofNat <$> IO.rand 0 0x40000000
  return { tree := ← readTree arguments, env := .ofVariables (← readVariables)
           draws := .cycle draws, stamp := ← readStamp }

/-- Write a text, and tell what became of it. -/
def deliverTo (out : IO.FS.Stream) (text : Text) : IO Delivery := do
  try
    out.putStr (String.ofList text)
    out.flush
    return .written
  catch e =>
    match e with
    | .resourceVanished .. => return .unread
    | e => return .failed (toString e).toList

end Phrasebook.Command

open Phrasebook.Command in
/-- Run the command with the arguments of the program. -/
def main (arguments : List String) : IO UInt32 := do
  let arguments := arguments.map String.toList
  let world ← readWorld arguments
  let shown := fun delivery => ((({} : Session).main world delivery arguments)).1
  let delivery ← deliverTo (← IO.getStdout) (shown .written).stdout
  let shown := shown delivery
  (← IO.getStderr).putStr (String.ofList shown.stderr)
  match shown.ending with
  | .exit status => return UInt32.ofNat status
  | .text _ => return 0
  | .fault f => throw (IO.userError (String.ofList f.message))
