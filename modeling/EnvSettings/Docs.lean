/-
Documentation of a schema: the variables it reads, as a list, as a table in a document and as
help on a terminal. Nothing is read to make it.
-/
import EnvSettings.Schema.Walker

namespace EnvSettings

open EnvSettings.Text

variable {A : Type} [AppTypes A] {R : Type}

/-- What a reader should know about one variable. -/
structure FieldInfo where
  key : String
  required : Bool
  default? : Option String
  doc : String
  typeName : String
  deriving Repr, DecidableEq

/-- What there is to know about a slot. -/
def Slot.info (slot : Slot A R) : FieldInfo :=
  ⟨slot.key, slot.rule.required, slot.rule.default?, slot.rule.doc, slot.typeName⟩

/-- The variables of a schema in the order in which they are read. -/
def Schema.describe [DecidableEq A] (s : Schema A) (stem : String) (registry : Registry A) :
    Except SchemaError (List FieldInfo) :=
  match s.slots? stem registry with
  | .ok slots => .ok (slots.map (·.info))
  | .error e => .error e

namespace Docs

/-- The heading of the table and its first two lines. -/
def tableHead : String :=
  "## Environment Variables Summary\n\n" ++
    "| Variable | Type | Required | Description | Default |\n" ++
    "|----------|------|----------|-------------|---------|\n"

/-- The line of the table for a variable. -/
def tableRow (info : FieldInfo) : String :=
  let required := if info.required then "Yes" else "No"
  let doc := if info.doc = "" then "-" else info.doc
  s!"| {info.key} | `{info.typeName}` | {required} | {doc} | " ++ info.default?.getD "-" ++ " |\n"

/-- The table of the variables that fields are read from. -/
def table (infos : List FieldInfo) : String :=
  tableHead ++ String.join (infos.map tableRow)

/-- The lines of the help for a variable. -/
def usageEntry (info : FieldInfo) : String :=
  let policy :=
    if info.required then " (required)"
    else
      match info.default? with
      | some default => s!" (default {quote default})"
      | none => ""
  let doc := if info.doc = "" then "" else s!"        {info.doc}\n"
  s!"  {info.key} {info.typeName}{policy}\n{doc}"

/-- The list of the variables that fields are read from, as a user of a program sees it. -/
def usage (infos : List FieldInfo) : String :=
  "Environment variables:\n" ++ String.join (infos.map usageEntry)

end Docs

end EnvSettings
