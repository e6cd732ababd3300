/-
What can be wrong with a schema. Such an error names a field by its path and is found before
any variable is read.
-/
import EnvSettings.Text.Quoted

namespace EnvSettings

open EnvSettings.Text

/-- What can be wrong with a field of a schema. -/
inductive SchemaFault
  | requiredWithDefault
  | emptyDefault
  | requiredGroup
  | defaultOnGroup
  | pointer (typeName : String)
  | unsupported (typeName : String)
  deriving Repr, DecidableEq

/-- What is wrong with a field, in words. -/
def SchemaFault.message : SchemaFault → String
  | .requiredWithDefault => "field cannot be required and have a default"
  | .emptyDefault => "default cannot be empty"
  | .requiredGroup => "nested structs can't be required"
  | .defaultOnGroup => "nested structs can't have a default"
  | .pointer typeName => s!"destination field cannot be a pointer: {typeName}"
  | .unsupported typeName => s!"unsupported destination type: {typeName}"

/-- A field with something wrong. -/
structure SchemaError where
  /-- The names from the root to the field, joined by points. -/
  path : String
  fault : SchemaFault
  deriving Repr, DecidableEq

/-- What is wrong with which field, in words. -/
def SchemaError.message (e : SchemaError) : String :=
  s!"field {quote e.path}: {e.fault.message}"

end EnvSettings
