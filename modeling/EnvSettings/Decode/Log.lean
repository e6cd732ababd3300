/-
What a decoding tells a log. The events name variables and counts and never a value.
-/
import EnvSettings.Text.Quoted

namespace EnvSettings

open EnvSettings.Text

/-- How important an event is. -/
inductive LogLevel
  | trace | debug | warn
  deriving Repr, DecidableEq

/-- The name of a level in a log. -/
def LogLevel.name : LogLevel → String
  | .trace => "TRACE"
  | .debug => "DEBUG"
  | .warn => "WARN"

/-- Something worth a line in the log. -/
inductive LogEvent
  /-- The values of a schema are about to be read. -/
  | decoding (stem : String) (fields : Nat)
  /-- A variable is read. -/
  | reading (key : String)
  /-- Some variables could not be satisfied. -/
  | invalid (errors : Nat)
  /-- Some variables are read by nothing. -/
  | unused (names : List String)
  /-- A configuration is complete. -/
  | decoded (stem : String)
  /-- A converter is registered for all decodings to come. -/
  | registering (typeName : String)
  deriving Repr, DecidableEq

namespace LogEvent

/-- How important the event is. -/
def level : LogEvent → LogLevel
  | .reading _ => .trace
  | .unused _ => .warn
  | _ => .debug

/-- The words that tell the event. -/
def message : LogEvent → String
  | .decoding _ _ => "decoding configuration"
  | .reading _ => "reading variable"
  | .invalid _ => "configuration has invalid values"
  | .unused _ => "environment defines variables the config does not use"
  | .decoded _ => "configuration decoded"
  | .registering _ => "registering config converter"

/-- The named texts that go with the event. -/
def fields : LogEvent → List (String × String)
  | .decoding stem fields => [("prefix", stem), ("fields", toString fields)]
  | .reading key => [("env_var", key)]
  | .invalid errors => [("errors", toString errors)]
  | .unused names => [("unused", quoteAll names)]
  | .decoded stem => [("prefix", stem)]
  | .registering typeName => [("type_name", typeName)]

end LogEvent

end EnvSettings
