import Phrasebook.Document
import Phrasebook.Text.Quoted
import Phrasebook.Text.Utf8

/-!
# Folders

A tree of folders and files, as the library finds it when it reads. Paths are written with
slashes; repeated slashes and single dots mean nothing, and `Path.clean` leaves them out. A
file holds octets or a document that was read already. Names and paths have a greatest
length in octets, and no path can have a null character in it.
-/

namespace Phrasebook

namespace Path

/-- The names along a path. -/
def names (path : Text) : List Text :=
  (Text.splitOn '/' path).filter fun n => !n.isEmpty && n != ['.']

/-- The slashes that an absolute path starts with: one, or two if there are exactly two. -/
def root : Text → Text
  | '/' :: '/' :: '/' :: _ => ['/']
  | '/' :: '/' :: _ => ['/', '/']
  | '/' :: _ => ['/']
  | _ => []

/-- A path without slashes and dots that mean nothing. -/
def clean (path : Text) : Text :=
  let written := root path ++ Text.joinWith ['/'] (names path)
  if written.isEmpty then ['.'] else written

/-- A path below a clean folder, unless it is absolute. -/
def below (folder path : Text) : Text :=
  if (root path).isEmpty then
    if folder = ['.'] then clean path else clean (folder ++ '/' :: path)
  else clean path

/-- The number of octets that a text takes. -/
def octets (t : Text) : Nat := t.foldl (fun n c => n + c.utf8Size) 0

/-- The greatest number of octets of a name. -/
def maxName : Nat := 255

/-- The greatest number of octets of a path. -/
def maxPath : Nat := 4095

end Path

/-- What a file holds. -/
inductive Content where
  | octets (bytes : ByteArray)
  | document (d : Document)

/-- A file, or a folder with named trees in it. -/
inductive Tree where
  | file (c : Content)
  | folder (trees : List (Text × Tree))

instance : Inhabited Tree := ⟨.folder []⟩

/-- Why a file cannot be read. -/
inductive ReadFault where
  | notFound
  | isFolder
  | notFolder
  /-- A name, or the whole path, is longer than names and paths can be. -/
  | nameTooLong
  /-- The path has a null character in it. -/
  | nullCharacter
  deriving DecidableEq, Repr

/-- The wording of a fault at a path. -/
def ReadFault.message (path : Text) : ReadFault → Text
  | .notFound => "[Errno 2] No such file or directory: ".toList ++ Text.quoted path
  | .isFolder => "[Errno 21] Is a directory: ".toList ++ Text.quoted path
  | .notFolder => "[Errno 20] Not a directory: ".toList ++ Text.quoted path
  | .nameTooLong => "[Errno 36] File name too long: ".toList ++ Text.quoted path
  | .nullCharacter => "embedded null byte".toList

namespace Tree

/-- The trees of a folder; a file has none. -/
def trees : Tree → List (Text × Tree)
  | .file _ => []
  | .folder ts => ts

/-- Go down along some names. The trees passed on the way are kept, for two dots lead back
to the last of them. A name is looked at only where there is a folder to look it up in. -/
def walk (here : Tree) (passed : List Tree) : List Text → Except ReadFault Tree
  | [] => .ok here
  | name :: rest =>
    match here with
    | .file _ => .error .notFolder
    | .folder ts =>
      if name = ['.', '.'] then
        match passed with
        | [] => walk here [] rest
        | above :: passed => walk above passed rest
      else if Path.maxName < Path.octets name then .error .nameTooLong
      else
        match ts.lookup name with
        | none => .error .notFound
        | some t => walk t (here :: passed) rest

/-- The tree at a path. -/
def at? (t : Tree) (path : Text) : Except ReadFault Tree :=
  if path.contains '\x00' then .error .nullCharacter
  else if Path.maxPath < Path.octets path then .error .nameTooLong
  else t.walk [] (Path.names path)

/-- What the file at a path holds. -/
def read (t : Tree) (path : Text) : Except ReadFault Content := do
  match ← t.at? path with
  | .file c => return c
  | .folder _ => throw .isFolder

/-- The trees of the folder at a path, if there is a folder. Only a name that is too long
makes it impossible to tell. -/
def folder? (t : Tree) (path : Text) : Except ReadFault (Option (List (Text × Tree))) :=
  match t.at? path with
  | .ok (.folder ts) => .ok (some ts)
  | .error .nameTooLong => .error .nameTooLong
  | _ => .ok none

/-- A tree put at some names, with the folders on the way. -/
def put (new : Tree) : List Text → Tree → Tree
  | [], _ => new
  | name :: rest, t =>
    let inner := (t.trees.lookup name).getD (.folder [])
    .folder (t.trees.filter (·.1 != name) ++ [(name, put new rest inner)])

/-- The tree that holds one tree at a path, and the folders that the path leads through. -/
def holding (inner : Tree) (path : Text) : Tree :=
  let (here, t) := (Path.names path).foldl
    (fun (here, t) name =>
      if name = ['.', '.'] then (here.dropLast, t)
      else (here ++ [name], put (.folder []) (here ++ [name]) t))
    (([] : List Text), .folder [])
  put inner here t

/-- Are the characters of one name before those of another, by their code points? -/
def nameBefore : Text → Text → Bool
  | [], _ => true
  | _ :: _, [] => false
  | a :: r, b :: s => a.toNat < b.toNat || (a == b && nameBefore r s)

/-- Trees in the order of their names. -/
def sorted (ts : List (Text × Tree)) : List (Text × Tree) :=
  ts.mergeSort fun a b => nameBefore a.1 b.1

end Tree

end Phrasebook
