/-
What can come of a decoding instead of a configuration: something wrong with the schema, one
error for every variable that could not be satisfied, or variables that nothing reads.
-/
import EnvSettings.Value.ParseError
import EnvSettings.Schema.Error

namespace EnvSettings

open EnvSettings.Text

-- ============================================================ value errors

/-- Why a variable could not be satisfied. -/
inductive ValueFault
  /-- It is required and missing. -/
  | required
  /-- Its value cannot be read. -/
  | invalid (source : ParseError)
  /-- It is missing and its default cannot be read. -/
  | default (default : String) (source : ParseError)
  deriving Repr, DecidableEq

/-- What is wrong with a value, in words. -/
def ValueFault.message : ValueFault → String
  | .required => "required field is not set"
  | .invalid source => source.message
  | .default text source => s!"setting default value {quote text}: {source.message}"

/-- A variable that could not be satisfied. -/
structure ValueError where
  key : String
  fault : ValueFault
  deriving Repr, DecidableEq

/-- What is wrong with which variable, in words. -/
def ValueError.message (e : ValueError) : String :=
  s!"env var {e.key}: {e.fault.message}"

/-- The variable is missing though it is required. -/
def ValueError.isRequired (e : ValueError) : Bool := e.fault = .required

/-- The text of all value errors of a decoding, on one line. -/
def valueErrorsMessage (errors : List ValueError) : String :=
  "one or more config errors have occurred: " ++ "; ".intercalate (errors.map (·.message))

-- ================================================================== report

/-- How a report sets off the two things a reader looks for. -/
structure Palette where
  key : String → String
  count : String → String

/-- The palette that sets nothing off. -/
def Palette.plain : Palette := ⟨id, id⟩

/-- The sequence that ends every style of a terminal. -/
def resetSequence : List Char := ['\x1b', '[', '0', 'm']

/-- Takes a style up again behind every reset, so that text which brings resets of its own stays
in the style to its end. -/
def resumeStyle (style : List Char) : List Char → List Char
  | '\x1b' :: '[' :: '0' :: 'm' :: cs => resetSequence ++ style ++ resumeStyle style cs
  | c :: cs => c :: resumeStyle style cs
  | [] => []

/-- Text in a style of a terminal. -/
def painted (style : List Char) (s : String) : String :=
  String.ofList (style ++ resumeStyle style s.toList ++ resetSequence)

/-- The palette of a terminal: variables in bold magenta, the count in bold yellow. -/
def Palette.terminal : Palette where
  key := painted ['\x1b', '[', '1', ';', '3', '5', 'm']
  count := painted ['\x1b', '[', '1', ';', '3', '3', 'm']

/-- The palette that an environment asks for: a terminal's if colours are forced by a text other
than `0`. -/
def Palette.forced (force? : Option String) : Palette :=
  if force?.any (· ≠ "0") then .terminal else .plain

/-- The line of a report for one error. -/
def ValueError.reportLine (palette : Palette) (e : ValueError) : String :=
  s!"  - {palette.key e.key}: {e.fault.message}"

/-- A report of value errors, one to a line. -/
def report (palette : Palette) (errors : List ValueError) : String :=
  s!"Configuration failed with {palette.count (toString errors.length)} error(s):\n" ++
    "\n".intercalate (errors.map (·.reportLine palette)) ++ "\n"

-- =========================================================== decode errors

/-- Why there is no configuration. -/
inductive DecodeError
  | schema (error : SchemaError)
  | values (errors : List ValueError)
  | unused (names : List String)
  deriving Repr, DecidableEq

/-- Why there is no configuration, in words. -/
def DecodeError.message : DecodeError → String
  | .schema error => s!"invalid config struct: {error.message}"
  | .values errors => valueErrorsMessage errors
  | .unused names =>
    "not all defined environment variables used in config: " ++ ", ".intercalate names

/-- The value errors, if it is these that there are. -/
def DecodeError.valueErrors : DecodeError → List ValueError
  | .values errors => errors
  | _ => []

end EnvSettings
