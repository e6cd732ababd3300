/-
Files as a program sees them from its working directory, as a value. Reading and writing resolve
paths name by name, as a file system does: every name but the last must lead to a directory, and
what a path ends with decides what may stand there.

The working directory holds files only. Above it lie directories of which nothing is known, so
that they count as empty, and at the top the root with the directories every system has.
-/
import EnvSettings.Source.EnvFile

namespace EnvSettings

open EnvSettings.Source

-- =================================================================== places

/-- A directory that files can be in. -/
inductive Place
  /-- The working directory, or the one so many levels above it. -/
  | above (levels : Nat)
  | root
  /-- A directory in the root. -/
  | standard (name : String)
  deriving Repr, DecidableEq

/-- The directories that every system has in its root. -/
def Place.standardNames : List String :=
  ["bin", "boot", "dev", "etc", "home", "lib", "media", "mnt", "opt", "proc", "root", "run",
    "sbin", "srv", "sys", "tmp", "usr", "var"]

/-- The directory that holds this one. The root holds itself. -/
def Place.parent : Place → Place
  | .above levels => .above (levels + 1)
  | .root => .root
  | .standard _ => .root

/-- Where a file lies. -/
structure Location where
  place : Place
  name : String
  deriving Repr, DecidableEq

/-- The device that keeps nothing of what is written to it. -/
def Location.null : Location := ⟨.standard "dev", "null"⟩

-- ==================================================================== paths

/-- A path, cut into its names. -/
structure Path where
  start : Place
  names : List String
  /-- Slashes stand behind the last name. -/
  asDirectory : Bool
  deriving Repr, DecidableEq

/-- The most bytes that a name may have. -/
def Path.nameLimit : Nat := 255

/-- A path is shorter than this many bytes. -/
def Path.limit : Nat := 4096

/-- The path that a text names, unless there can be no file of that name. -/
def Path.ofText (text : String) : Except FileFault Path :=
  let cs := text.toList
  if cs.contains '\x00' then .error .invalidPath
  else if cs = [] then .error .notFound
  else if limit ≤ text.utf8ByteSize then .error .nameTooLong
  else
    .ok {
      start := if cs.head? = some '/' then .root else .above 0
      names := ((cs.splitOn '/').map String.ofList).filter (· ≠ "")
      asDirectory := cs.getLast? = some '/' }

-- ================================================================ directory

/-- The files by their locations. -/
structure Directory where
  files : List (Location × Bytes)

namespace Directory

/-- The working directory without files. -/
def empty : Directory := ⟨[]⟩

/-- What a file holds, if it is there. -/
def at? (d : Directory) (location : Location) : Option Bytes :=
  if location = .null then some [] else d.files.lookup location

/-- Puts a file in, in the place of one at the same location. -/
def putAt (d : Directory) (location : Location) (contents : Bytes) : Directory :=
  if location = .null then d
  else ⟨(location, contents) :: d.files.filter (·.1 ≠ location)⟩

/-- The contents of a file of the working directory. -/
def file? (d : Directory) (name : String) : Option Bytes := d.at? ⟨.above 0, name⟩

/-- Puts a file into the working directory. -/
def put (d : Directory) (name : String) (contents : Bytes) : Directory :=
  d.putAt ⟨.above 0, name⟩ contents

/-- What a name leads to. -/
inductive Target
  | directory (place : Place)
  | file (contents : Bytes)
  | nothing
  deriving Repr, DecidableEq

/-- What a name leads to in a directory. -/
def find (d : Directory) (place : Place) (name : String) : Except FileFault Target :=
  if name = "." then .ok (.directory place)
  else if name = ".." then .ok (.directory place.parent)
  else if Path.nameLimit < name.utf8ByteSize then .error .nameTooLong
  else if place = .root ∧ name ∈ Place.standardNames then .ok (.directory (.standard name))
  else
    match d.at? ⟨place, name⟩ with
    | some contents => .ok (.file contents)
    | none => .ok .nothing

/-- The directory that names lead to, one after the other. -/
def enter (d : Directory) (place : Place) : List String → Except FileFault Place
  | [] => .ok place
  | name :: rest =>
    match d.find place name with
    | .error fault => .error fault
    | .ok (.directory next) => d.enter next rest
    | .ok (.file _) => .error .notDirectory
    | .ok .nothing => .error .notFound

/-- The directory in which the last name of a path is looked up, and that name. A path without
names is the root itself. -/
def last (d : Directory) (path : Path) : Except FileFault (Place × String) := do
  let place ← d.enter path.start path.names.dropLast
  return (place, path.names.getLast?.getD ".")

/-- Reads the file that a path leads to. -/
def read (d : Directory) (text : String) : Except FileFault Bytes := do
  let path ← Path.ofText text
  let (place, name) ← d.last path
  match ← d.find place name with
  | .directory _ => .error .isDirectory
  | .file contents => if path.asDirectory then .error .notDirectory else .ok contents
  | .nothing => .error .notFound

/-- Writes the file that a path leads to. Slashes at the end ask for a directory, which is never
made. -/
def write (d : Directory) (text : String) (contents : Bytes) : Except FileFault Directory := do
  let path ← Path.ofText text
  let (place, name) ← d.last path
  if path.asDirectory then .error .isDirectory
  else
    match ← d.find place name with
    | .directory _ => .error .isDirectory
    | .file _ => .ok (d.putAt ⟨place, name⟩ contents)
    | .nothing => .ok (d.putAt ⟨place, name⟩ contents)

end Directory

end EnvSettings
