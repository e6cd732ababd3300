/-
Variables from a file with one `NAME=VALUE` on each line.

Lines are trimmed; an empty line or one that starts with a number sign says nothing; else the
first equals sign splits name from value, and the value is taken as it stands. The first line
that is not text, or that says something without an equals sign, makes the whole file an error.
-/
import EnvSettings.Pieces
import EnvSettings.Source.Basic
import EnvSettings.Source.Bytes
import EnvSettings.Text.Blank

namespace EnvSettings

open EnvSettings.Text

-- ================================================================== errors

/-- Why a file cannot be read or written. -/
inductive FileFault
  | notFound
  | invalidText
  | isDirectory
  | notDirectory
  | nameTooLong
  /-- The path contains a NUL, which no path can. -/
  | invalidPath
  deriving Repr, DecidableEq

/-- What is wrong with a file, in words. -/
def FileFault.message : FileFault → String
  | .notFound => "No such file or directory (os error 2)"
  | .invalidText => "stream did not contain valid UTF-8"
  | .isDirectory => "Is a directory (os error 21)"
  | .notDirectory => "Not a directory (os error 20)"
  | .nameTooLong => "File name too long (os error 36)"
  | .invalidPath => "file name contained an unexpected NUL byte"

/-- Why a source cannot be opened. -/
inductive SourceError
  /-- The file cannot be read as text. -/
  | unreadable (path : String) (fault : FileFault)
  /-- A line has no equals sign. -/
  | noEquals (path : String) (line : String)
  deriving Repr, DecidableEq

/-- Why there is no source, in words. -/
def SourceError.message : SourceError → String
  | .unreadable path fault => s!"reading env file {path}: {fault.message}"
  | .noEquals path line => s!"invalid line in env file {path}: {line}"

-- =================================================================== lines

namespace Source.EnvFile

/-- Splits a name and a value at the first equals sign, if there is one. -/
def splitAtEquals (cs : List Char) : Option (String × String) :=
  match cs.dropWhile (· ≠ '=') with
  | '=' :: value => some (String.ofList (cs.takeWhile (· ≠ '=')), String.ofList value)
  | _ => none

/-- What a line says: nothing, or a name and its value. -/
def readLine (path : String) (line : Bytes) : Except SourceError (Option (String × String)) :=
  match line.text? with
  | none => .error (.unreadable path .invalidText)
  | some text =>
    let trimmed := trimBlank text.toList
    if trimmed = [] ∨ trimmed.head? = some '#' then .ok none
    else
      match splitAtEquals trimmed with
      | some binding => .ok (some binding)
      | none => .error (.noEquals path (String.ofList trimmed))

/-- What lines say, in their order, up to the first error. -/
def readLines (path : String) : List Bytes → Except SourceError Source.Bindings
  | [] => .ok []
  | line :: rest =>
    match readLine path line with
    | .error e => .error e
    | .ok binding? =>
      match readLines path rest with
      | .error e => .error e
      | .ok bindings => .ok (binding?.toList ++ bindings)

/-- The bindings of a file's contents. A newline, which is the byte 10, ends a line. -/
def read (path : String) (contents : Bytes) : Except SourceError Source.Bindings :=
  readLines path (piecesEndedBy 10 contents)

/-- The source of a file that was found or not found. -/
def toSource (path : String) (contents : Except FileFault Bytes) : Except SourceError Source :=
  match contents with
  | .error fault => .error (.unreadable path fault)
  | .ok bytes => (read path bytes).map Source.ofBindings

end Source.EnvFile

end EnvSettings
