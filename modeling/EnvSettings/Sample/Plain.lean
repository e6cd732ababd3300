/-
An application without types of its own. It reads dates as RFC 3339 has them.
-/
import EnvSettings.Sample.Rfc3339
import EnvSettings.Value.Type

namespace EnvSettings.Sample

instance : AppTypes Empty where
  Value := nofun
  name := nofun
  initial := nofun
  read? := nofun
  calendar := Rfc3339.calendar

end EnvSettings.Sample
