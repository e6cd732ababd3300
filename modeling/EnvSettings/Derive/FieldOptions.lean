/-
What the attributes of a field say about it: how the field is visited, and its policy. The
options of a field form a table by their keys, in which the last one given for a key counts. Each
is read on its own; only two options that both say how the field is visited exclude each other.
The order of the table therefore does not matter.
-/
import EnvSettings.Derive.Attribute
import EnvSettings.Derive.Fault
import EnvSettings.Schema.Basic

namespace EnvSettings.Derive

open EnvSettings.Text

-- ================================================================ options

/-- How a field is visited. -/
inductive FieldMode
  /-- As a value of a type that can be read. -/
  | value
  /-- As a value that only a registered converter can read. -/
  | registered
  /-- As a group of fields. -/
  | group
  /-- Not at all. -/
  | skip
  deriving Repr, DecidableEq

/-- The options of a field: its policy, and how it is visited. -/
structure FieldOptions where
  rule : FieldRule
  mode : FieldMode
  deriving Repr, DecidableEq

/-- What stands behind a key. -/
inductive Setting
  | flag
  | bool (value : Bool)
  | text (value : String)
  deriving Repr, DecidableEq

/-- One option, understood. -/
inductive FieldOption
  | required (value : Bool)
  | default (text : String)
  | doc (text : String)
  | mode (mode : FieldMode)
  deriving Repr, DecidableEq

/-- The option that a key and its setting stand for. -/
def FieldOption.read (key : String) (setting : Setting) : Except Fault FieldOption :=
  match key, setting with
  | "required", .flag => .ok (.required true)
  | "required", .bool value => .ok (.required value)
  | "required", .text _ => .error .requiredNotBool
  | "default", .text text => .ok (.default text)
  | "default", _ => .error (.optionNotText "default")
  | "doc", .text text => .ok (.doc (trim text))
  | "doc", _ => .error (.optionNotText "doc")
  | "nested", .flag => .ok (.mode .group)
  | "registered", .flag => .ok (.mode .registered)
  | "skip", .flag => .ok (.mode .skip)
  | key, _ => .error (.unknownOption key)

namespace FieldOptions

/-- Adds an option to what is known. -/
def add (known : FieldOptions) : FieldOption → Except Fault FieldOptions
  | .required value => .ok { known with rule := { known.rule with required := value } }
  | .default text => .ok { known with rule := { known.rule with default? := some text } }
  | .doc text => .ok { known with rule := { known.rule with doc := text } }
  | .mode mode => if known.mode = .value then .ok { known with mode } else .error .severalModes

/-- Adds what a key and its setting stand for. -/
def addSetting (known : FieldOptions) (entry : String × Setting) : Except Fault FieldOptions := do
  known.add (← FieldOption.read entry.1 entry.2)

/-- Adds every option of a table, in the table's order. -/
def addAll (known : FieldOptions) (table : List (String × Setting)) : Except Fault FieldOptions :=
  table.foldlM addSetting known

end FieldOptions

-- ================================================================== table

/-- Puts a setting into a table, in the place of an earlier one for the same key. -/
def putSetting (entry : String × Setting) : List (String × Setting) → List (String × Setting)
  | [] => [entry]
  | other :: rest =>
    if other.1 = entry.1 then entry :: rest else other :: putSetting entry rest

/-- The setting that a value makes, which must be a text or a truth value if there is one. -/
def ItemValue.setting : ItemValue → Except Fault Setting
  | .absent => .ok .flag
  | .literal (.text text) => .ok (.text text)
  | .literal (.bool value) => .ok (.bool value)
  | .literal .other => .error .optionValue
  | .noLiteral atEnd => .error (.optionNotLiteral atEnd)

/-- The setting of an item, with its key, which must be a plain name. -/
def Item.setting : Item → Except Fault (String × Setting)
  | .noKey found => .error (.noKey found)
  | .keyed key value more =>
    if key.contains ':' then .error .optionNotName
    else do
      let setting ← value.setting
      if more then .error .missingComma else return (key, setting)

/-- The table of a list of items, the first faulty item being an error. -/
def settings (items : List Item) : Except Fault (List (String × Setting)) :=
  items.foldlM (fun table item => return putSetting (← item.setting) table) []

-- ============================================================= attributes

/-- The lines of a description that stand before a field, joined to one. -/
def docLine (attributes : List Attribute) : String :=
  let line? (attr : Attribute) : Option String :=
    match attr.name, attr.argument with
    | "doc", .value (.text text) => if trim text = "" then none else some (trim text)
    | _, _ => none
  " ".intercalate (attributes.filterMap line?)

/-- What a field's attributes say about it. Of several lists of options the first one counts. -/
def FieldOptions.ofAttributes (attributes : List Attribute) : Except Fault FieldOptions :=
  let plain : FieldOptions := ⟨⟨false, none, docLine attributes⟩, .value⟩
  match attributes.find? (·.name = "field") with
  | none => .ok plain
  | some attr =>
    match attr.argument with
    | .items items => do plain.addAll (← settings items)
    | _ => .error .optionsNotListed

end EnvSettings.Derive
