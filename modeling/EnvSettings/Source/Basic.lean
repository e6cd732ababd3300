/-
Where variables come from. A source answers two questions: what the value of a name is, and
which names it defines. Whoever asks treats an empty value as none; the source itself does not.
-/
import EnvSettings.Source.Names

namespace EnvSettings

/-- Where variables come from. -/
structure Source where
  /-- The value of a name, if it is defined. -/
  get : String → Option String
  /-- The names that are defined. -/
  list : List String

namespace Source

-- =============================================================== in memory

/-- Names with their values; the last pair of a name counts. -/
abbrev Bindings := List (String × String)

/-- The value that bindings give a name. -/
def Bindings.value? (bindings : Bindings) (name : String) : Option String :=
  ((bindings.filter (·.1 = name)).getLast?).map (·.2)

/-- The source with the given bindings; it lists names in ascending order. -/
def ofBindings (bindings : Bindings) : Source where
  get := bindings.value?
  list := ascending (bindings.map (·.1))

/-- The source that defines nothing. -/
def empty : Source := ofBindings []

-- ================================================================ layering

/-- A value that counts: one that is there and not empty. -/
def present? (value : Option String) : Option String := value.filter (· ≠ "")

/-- Asks `primary` first and `fallback` for what it leaves missing or empty. Names come in the
order of their first occurrence. -/
def orElse (primary fallback : Source) : Source where
  get name :=
    match present? (primary.get name) with
    | some value => some value
    | none => fallback.get name
  list := firstOccurrences [] (primary.list ++ fallback.list)

end Source

end EnvSettings
