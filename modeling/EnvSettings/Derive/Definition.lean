/-
Definitions of records and of what is no record, as far as an implementation can be derived from
them.
-/
import EnvSettings.Derive.Attribute
import EnvSettings.Derive.Header
import EnvSettings.Derive.TypeForm

namespace EnvSettings.Derive

-- ================================================================== fields

/-- A field as it is defined. -/
structure FieldDefinition where
  attributes : List Attribute
  /-- Others than the record's own module may see the field. -/
  isVisible : Bool
  name : String
  type : TypeText
  deriving Repr, DecidableEq

/-- The field whose declaration up to the colon is given by its source text. Further attributes
may stand in front of it, descriptions in comments among them; any word between them and the name
makes the field visible. -/
def FieldDefinition.ofSource (attributes : List Attribute) (declaration : String)
    (type : TypeText) : FieldDefinition :=
  let (more, rest) := Attribute.splitLeading (Tree.ofSource declaration)
  { attributes := attributes ++ more
    isVisible := 1 < rest.length
    name := Tree.compact rest.getLast?.toList
    type := type }

-- ============================================================ definitions

/-- What is defined. -/
inductive DefinitionKind
  /-- A record with named fields. -/
  | struct
  /-- A record whose fields have no names. -/
  | tuple
  /-- A record without fields. -/
  | unit
  | enum
  | union
  deriving Repr, DecidableEq

/-- A definition that settings are derived for. -/
structure Definition where
  attributes : List Attribute
  kind : DefinitionKind
  header : Header
  fields : List FieldDefinition
  deriving Repr, DecidableEq

end EnvSettings.Derive
