/-
The environment of a process as a source. Names and values are bytes. A value that is not valid
UTF-8 counts as missing; a name that is not valid UTF-8, or is empty, is not listed.

A process holds a variable as one entry, in which an equals sign stands between name and value. It
looks a name up by comparing the start of its entries with the name and an equals sign, one after
the other, and the first entry that starts so decides. A name that contains an equals sign itself
may therefore reach into a value, though no such name is listed.
-/
import EnvSettings.Source.Basic
import EnvSettings.Source.Bytes

namespace EnvSettings

/-- The variables of a process in the order in which it holds them. -/
abbrev Environment := List (Source.Bytes × Source.Bytes)

namespace Environment

open Source

/-- The byte that stands between a name and a value. -/
def equalsSign : UInt8 := 61

/-- The part of a name before its first equals sign: the variable whose entries are looked at. -/
def ownName (name : Bytes) : Bytes := name.takeWhile (· ≠ equalsSign)

/-- What an entry holds behind a name and an equals sign, if it starts with them. -/
def entryValue? (name : Bytes) (entry : Bytes × Bytes) : Option Bytes :=
  let start := name ++ [equalsSign]
  let whole := entry.1 ++ equalsSign :: entry.2
  if start.isPrefixOf whole then some (whole.drop start.length) else none

/-- The bytes of a variable's value. -/
def bytes? (env : Environment) (name : String) : Option Bytes :=
  let key := Bytes.ofText name
  (env.filter (·.1 = ownName key)).findSome? (entryValue? key)

/-- The value of a variable, if it is text. -/
def value? (env : Environment) (name : String) : Option String :=
  (env.bytes? name).bind Bytes.text?

/-- The names that are text and not empty, in the order of the variables. -/
def names (env : Environment) : List String :=
  (env.filterMap (·.1.text?)).filter (· ≠ "")

/-- The source that a process is. -/
def toSource (env : Environment) : Source where
  get := env.value?
  list := env.names

-- ============================================================== assigning

/-- Gives a variable a value: its first entry changes, or there is a new one behind the others. -/
def assign (env : Environment) (name value : Bytes) : Environment :=
  match env with
  | [] => [(name, value)]
  | entry :: env =>
    if entry.1 = name then (name, value) :: env else entry :: assign env name value

/-- Gives a variable a text. -/
def assignText (env : Environment) (binding : String × String) : Environment :=
  env.assign (Bytes.ofText binding.1) (Bytes.ofText binding.2)

/-- The environment of a process that was given texts one after the other. -/
def ofTexts (bindings : List (String × String)) : Environment :=
  bindings.foldl assignText []

/-- The environment gives a variable a text, be it an empty one. -/
def defines (env : Environment) (name : String) : Bool := (env.value? name).isSome

/-- Gives a variable a text unless it has one. -/
def addMissing (env : Environment) (binding : String × String) : Environment :=
  if env.defines binding.1 then env else env.assignText binding

/-- Gives variables texts one after the other, each unless it has one by then. -/
def complete (env : Environment) (bindings : List (String × String)) : Environment :=
  bindings.foldl addMissing env

end Environment

end EnvSettings
