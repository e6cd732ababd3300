/-
An application's own types, as an example of how they are added: a text that is read as it
stands, a choice between two words, and two types that only a converter can read.
-/
import EnvSettings.Sample.Rfc3339
import EnvSettings.Value.Type

namespace EnvSettings.Sample

open EnvSettings.Text

/-- The types that the sample application adds. -/
inductive AppCode
  | shouty | mode | endpoint | tag
  deriving Repr, DecidableEq

/-- The mode that a program runs in. -/
inductive Mode
  | dev | prod
  deriving Repr, DecidableEq

/-- The word for a mode. -/
def Mode.text : Mode → String
  | .dev => "dev"
  | .prod => "prod"

/-- Reads a mode from the word for it. -/
def Mode.read (raw : String) : Except ParseError Mode :=
  if raw = "dev" then .ok .dev
  else if raw = "prod" then .ok .prod
  else .error (.invalid raw s!"expected 'dev' or 'prod', got {quote raw}")

/-- A host and a port on it. -/
structure Endpoint where
  host : String
  port : Nat
  deriving Repr, DecidableEq

instance : AppTypes AppCode where
  Value
    | .shouty => String
    | .mode => Mode
    | .endpoint => Endpoint
    | .tag => String
  name
    | .shouty => "app::types::Shouty"
    | .mode => "app::types::Mode"
    | .endpoint => "app::types::Endpoint"
    | .tag => "app::types::Tag"
  initial
    | .shouty => ""
    | .mode => Mode.dev
    | .endpoint => Endpoint.mk "" 0
    | .tag => ""
  read?
    | .shouty => some .ok
    | .mode => some Mode.read
    | .endpoint => none
    | .tag => none
  calendar := Rfc3339.calendar

end EnvSettings.Sample
