/-
The implementation that is derived from the definition of a record: the type it is for, and the
visits it makes, one for every field that is visible from outside and not to be skipped.
-/
import EnvSettings.Derive.Definition
import EnvSettings.Derive.FieldOptions
import EnvSettings.Naming

namespace EnvSettings.Derive

-- =================================================================== plan

/-- A field that is visited, with what the visit is told about it. -/
structure VisitedField where
  /-- The name by which the field is known outside. -/
  name : String
  type : String
  rule : FieldRule
  /-- The field that receives the value, named as in the definition. -/
  destination : String
  deriving Repr, DecidableEq

/-- A visit of a field, with what is said of the field. -/
inductive Visit
  | value (field : VisitedField)
  | registered (field : VisitedField)
  | group (field : VisitedField)
  | pointer (name type : String)
  deriving Repr, DecidableEq

/-- The implementation that is derived from a definition. -/
structure Plan where
  /-- The type it is for, applied to its parameters. -/
  selfType : String
  /-- The parameters it introduces. -/
  parameters : String
  conditions? : Option String
  /-- What the name of every variable starts with, where the definition says so. -/
  stem? : Option String
  visits : List Visit
  deriving Repr, DecidableEq

-- =============================================================== deriving

namespace FieldDefinition

/-- The name by which the field is known outside. -/
def publicName (field : FieldDefinition) : String :=
  String.ofList (Naming.withoutRawMark field.name.toList)

/-- The visit that a field's options ask for. A field that points to its value is only reported as
such, however it was to be visited. -/
def visit? (field : FieldDefinition) (options : FieldOptions) : Option Visit :=
  let visited : VisitedField := ⟨field.publicName, field.type.text, options.rule, field.name⟩
  if !field.isVisible then none
  else
    match options.mode, field.type.form.isPointer with
    | .skip, _ => none
    | _, true => some (.pointer field.publicName field.type.text)
    | .value, false => some (.value visited)
    | .registered, false => some (.registered visited)
    | .group, false => some (.group visited)

end FieldDefinition

/-- The visits of a list of fields. The attributes of every field are read, also of one that is
not visited. -/
def visits : List FieldDefinition → Except Fault (List Visit)
  | [] => .ok []
  | field :: rest => do
    let options ← FieldOptions.ofAttributes field.attributes
    return (field.visit? options).toList ++ (← visits rest)

/-- The stem that an item of an attribute gives. -/
def stemOfItem : Item → Except Fault String
  | .noKey found => .error (.noKey found)
  | .keyed key value more =>
    if key ≠ "prefix" then .error .unknownSetting
    else
      match value with
      | .absent => .error .missingValue
      | .noLiteral atEnd => .error (.valueNotText atEnd)
      | .literal (.text text) => if more then .error .missingComma else .ok text
      | .literal _ => .error (.valueNotText false)

/-- The stem after one more attribute. -/
def stemOfAttribute (stem? : Option String) (attr : Attribute) :
    Except Fault (Option String) :=
  if attr.name ≠ "config" then .ok stem?
  else
    match attr.argument with
    | .items items => items.foldlM (fun _ item => return some (← stemOfItem item)) stem?
    | .absent => .error .missingArguments
    | .value _ => .error .valueForArguments

/-- The stem that a definition's attributes give, the last one given. -/
def stem? (attributes : List Attribute) : Except Fault (Option String) :=
  attributes.foldlM stemOfAttribute none

/-- The visits of a definition, which must be a record with named fields. -/
def Definition.visits (definition : Definition) : Except Fault (List Visit) :=
  match definition.kind with
  | .struct => Derive.visits definition.fields
  | .tuple | .unit => .error .unnamedFields
  | .enum | .union => .error .notStruct

/-- The implementation derived from a definition. -/
def Definition.plan (definition : Definition) : Except Fault Plan := do
  let stem ← stem? definition.attributes
  let visits ← definition.visits
  let header := definition.header
  return {
    selfType := header.name ++ header.parameters.angled (·.name)
    parameters := header.parameters.angled (·.declaration)
    conditions? := header.conditions?
    stem? := stem
    visits := visits }

end EnvSettings.Derive
