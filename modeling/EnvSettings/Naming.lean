/-
The two rules on names. A field's variable is its name in upper-case words joined by
underscores, whichever spelling the field uses: a word starts at a separator, and at a capital
that follows a small letter or a digit or that begins a capitalised word after an acronym. A
type is shown under its last name only: of every path in a type's full name, what precedes the
last double colon goes away.
-/
import EnvSettings.Text.LetterCase
import EnvSettings.Text.Alphanumeric

namespace EnvSettings.Naming

open EnvSettings.Text

-- ========================================================= variable names

/-- The characters that separate words and are not part of any. -/
def isSeparator (c : Char) : Bool :=
  c = '_' || c = '-' || c = ' ' || c = '.'

/-- Whether `c`, standing between `before` and `after`, starts a new word without a separator. -/
def startsWord (before c : Char) (after : Option Char) : Bool :=
  isUppercase c &&
    (isLowercase before || before.isDigit || (isUppercase before && after.any isLowercase))

/-- Puts an underscore at the end, unless nothing is written yet or one stands there already. -/
def breakWord (out : List Char) : List Char :=
  if out = [] ∨ out.getLast? = some '_' then out else out ++ ['_']

/-- Writes the rest of a name behind `out`; `before` is the character just passed. -/
def upperWords (out : List Char) (before : Option Char) : List Char → List Char
  | [] => out
  | c :: rest =>
    if isSeparator c then upperWords (breakWord out) (some c) rest
    else
      let out := if before.any (startsWord · c rest.head?) then breakWord out else out
      upperWords (out ++ upperOf c) (some c) rest

/-- A name without the mark that lets a keyword stand as a name. -/
def withoutRawMark : List Char → List Char
  | 'r' :: '#' :: rest => rest
  | cs => cs

/-- Takes the underscores at the end away. -/
def trimUnderscores (cs : List Char) : List Char :=
  (cs.reverse.dropWhile (· == '_')).reverse

/-- The characters of a name in upper-case words joined by single underscores. -/
def screamingSnakeChars (name : List Char) : List Char :=
  trimUnderscores (upperWords [] none (withoutRawMark name))

/-- A name in upper-case words joined by single underscores. -/
def screamingSnake (name : String) : String :=
  String.ofList (screamingSnakeChars name.toList)

-- ============================================================= type names

/-- The characters that paths in type names consist of. -/
def isPathChar (c : Char) : Bool :=
  isAlphanumeric c || c = '_' || c = ':'

/-- What follows the last double colon, if there is one. -/
def afterLastColons : List Char → Option (List Char)
  | [] => none
  | c :: rest =>
    match afterLastColons rest with
    | some segment => some segment
    | none =>
      match c, rest with
      | ':', ':' :: segment => some segment
      | _, _ => none

/-- The last name of a path. -/
def lastSegment (path : List Char) : List Char :=
  (afterLastColons path).getD path

/-- Shortens every path of a type name; `path` holds the part of the current one already seen. -/
def shortenPaths (path : List Char) : List Char → List Char
  | [] => lastSegment path
  | c :: rest =>
    if isPathChar c then shortenPaths (path ++ [c]) rest
    else lastSegment path ++ c :: shortenPaths [] rest

/-- A type's full name with every path in it cut down to its last name. -/
def shortTypeName (full : String) : String :=
  String.ofList (shortenPaths [] full.toList)

end EnvSettings.Naming
