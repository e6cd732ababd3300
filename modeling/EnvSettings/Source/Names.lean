/-
Lists of names in ascending order without repetition, the form in which a source lists what it
defines and in which the names that were asked for are kept.
-/

namespace EnvSettings.Source

/-- Puts a name in its place in an ascending list, unless it is there already. -/
def insertName (name : String) : List String → List String
  | [] => [name]
  | other :: rest =>
    if name < other then name :: other :: rest
    else if name = other then other :: rest
    else other :: insertName name rest

/-- The names of a list in ascending order, each once. -/
def ascending (names : List String) : List String := names.foldr insertName []

/-- The names of a list in the order of their first occurrence, each once. -/
def firstOccurrences : (seen : List String) → List String → List String
  | _, [] => []
  | seen, name :: rest =>
    if name ∈ seen then firstOccurrences seen rest
    else name :: firstOccurrences (name :: seen) rest

end EnvSettings.Source
