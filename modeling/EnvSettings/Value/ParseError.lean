/-
Why a text cannot be read as a value of some type. An error carries the text it speaks of, and
an error inside a list carries the place and the element's own error.
-/
import EnvSettings.Number.Integer
import EnvSettings.Number.BinaryFloat
import EnvSettings.Time.Timestamp
import EnvSettings.Text.Quoted

namespace EnvSettings

open EnvSettings.Number EnvSettings.Time EnvSettings.Text

/-- A failed reading of one text. -/
inductive ParseError
  /-- Not one of the boolean words. -/
  | bool (value : String)
  /-- Not an integer of the type. -/
  | int (value : String) (fault : IntFault)
  /-- Not a floating point literal. -/
  | float (value : String) (fault : FloatFault)
  /-- Not an instant, though of the right shape. -/
  | time (value : String) (fault : Timestamp.Fault)
  /-- An element of a list fails. -/
  | element (index : Nat) (value : String) (source : ParseError)
  /-- Refused for a reason given in words. -/
  | invalid (value : String) (reason : String)
  /-- An error known by its words only, as a converter or a foreign type gives it. -/
  | custom (message : String)
  deriving Repr, DecidableEq

/-- Why the reading has failed, in words that quote the text. -/
def ParseError.message : ParseError → String
  | .bool value => s!"parsing {quote value}: invalid syntax"
  | .int value fault => s!"parsing {quote value}: {fault.message}"
  | .float value fault => s!"parsing {quote value}: {fault.message}"
  | .time value fault => s!"parsing time {quote value}: {fault.message}"
  | .element index value source => s!"element {index} {quote value}: {source.message}"
  | .invalid value reason => s!"parsing {quote value}: {reason}"
  | .custom message => message

end EnvSettings
