/-
A source that remembers what it was asked. Every name asked for counts as fetched, whether it
is defined or not; the names that are listed and not fetched are the ones nobody wanted.
-/
import EnvSettings.Source.Basic

namespace EnvSettings.Source

/-- What a source was asked. -/
inductive Call
  | get (name : String)
  | list
  deriving Repr, DecidableEq

/-- The name that a question asks for. -/
def Call.name? : Call → Option String
  | .get name => some name
  | .list => none

/-- A source with the questions it has answered so far, the first one first. -/
structure Tracked where
  inner : Source
  calls : List Call

namespace Tracked

/-- A source that has not been asked anything. -/
def ofSource (source : Source) : Tracked := ⟨source, []⟩

/-- Asks the source inside for the value of a name. -/
def get (t : Tracked) (name : String) : Option String × Tracked :=
  (t.inner.get name, ⟨t.inner, t.calls ++ [.get name]⟩)

/-- Asks the source inside for its names. -/
def list (t : Tracked) : List String × Tracked :=
  (t.inner.list, ⟨t.inner, t.calls ++ [.list]⟩)

/-- The names asked for, in ascending order. -/
def fetched (t : Tracked) : List String := ascending (t.calls.filterMap Call.name?)

/-- The defined names that were never asked for, in the order of the source. -/
def unfetched (t : Tracked) : List String × Tracked :=
  (t.inner.list.filter (· ∉ t.fetched), ⟨t.inner, t.calls ++ [.list]⟩)

end Tracked

end EnvSettings.Source
