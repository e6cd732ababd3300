/-
The shape of a configuration: a sequence of fields, each of which is a value read from one
variable, a group of further fields, a pointer, or a field that is left alone.

A schema denotes the type of its configurations, which is a product with one factor for every
value, group and skipped field. A pointer has no place in it, since a schema with a pointer has
no configuration that could be decoded.
-/
import EnvSettings.Value.Type

namespace EnvSettings

-- ============================================================ field policy

/-- What is to happen when a field's variable is missing, and what the field is for. -/
structure FieldRule where
  /-- A missing variable is an error. -/
  required : Bool
  /-- The text used for a missing variable. -/
  default? : Option String
  /-- A description for readers. -/
  doc : String
  deriving Repr, DecidableEq

/-- The policy that asks nothing and says nothing. -/
def FieldRule.plain : FieldRule := ⟨false, none, ""⟩

-- ================================================================== schema

/-- A configuration's fields, in their order. -/
inductive Schema (A : Type)
  | done
  /-- A value of a type; `byConverter` says that only a registered converter may read it. -/
  | value (name : String) (type : TypeCode A) (byConverter : Bool) (rule : FieldRule)
      (rest : Schema A)
  /-- A group of fields under a common name. -/
  | group (name : String) (rule : FieldRule) (inner rest : Schema A)
  /-- A field that holds a pointer to its value. -/
  | pointer (name typeName : String) (rest : Schema A)
  /-- A field that keeps its initial value. -/
  | skip (name : String) (type : TypeCode A) (rest : Schema A)
  deriving Repr, DecidableEq

namespace Schema

variable {A : Type} [AppTypes A]

/-- The configurations of a schema. -/
def Config : Schema A → Type
  | .done => Unit
  | .value _ type _ _ rest => type.Value × rest.Config
  | .group _ _ inner rest => inner.Config × rest.Config
  | .pointer _ _ rest => rest.Config
  | .skip _ type rest => type.Value × rest.Config

/-- A configuration in which every field holds what a setting of its type usually holds before
anything is read. -/
def initial : (s : Schema A) → s.Config
  | .done => ()
  | .value _ type _ _ rest => (type.initial, rest.initial)
  | .group _ _ inner rest => (inner.initial, rest.initial)
  | .pointer _ _ rest => rest.initial
  | .skip _ type rest => (type.initial, rest.initial)

end Schema

end EnvSettings
