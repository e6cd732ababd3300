/-
The header of a definition: its name, its parameters and the conditions on them.

An implementation for the definition needs the parameters in two forms: with their bounds, where
it introduces them, and by name alone, where it applies the type to them. Both leave defaults out
and put lifetimes first.
-/
import EnvSettings.Derive.Tree

namespace EnvSettings.Derive

-- ============================================================= parameters

/-- A parameter of a definition. -/
structure Parameter where
  /-- The name alone; a lifetime's with its apostrophe. -/
  name : String
  /-- The parameter with its attributes and its bounds or type, without its default. -/
  declaration : String
  deriving Repr, DecidableEq

/-- The parameters of a definition, lifetimes first. -/
structure Parameters where
  list : List Parameter
  /-- A comma stands behind the last one. -/
  comma : Bool
  deriving Repr, DecidableEq

namespace Parameter

/-- Drops a colon at the end, behind which no bound stands. -/
def withoutEmptyBounds (trees : List Tree) : List Tree :=
  if trees.getLast?.any (·.isMark ":") then trees.dropLast else trees

/-- The name that trees without attributes declare. -/
def nameOf : List Tree → String
  | .word "const" :: .word name :: _ => name
  | tree :: _ => Tree.compact [tree]
  | [] => ""

/-- The parameter that is written so. -/
def ofTrees (trees : List Tree) : Parameter :=
  let declaration := withoutEmptyBounds (trees.takeWhile fun tree => !tree.isMark "=")
  ⟨nameOf (Tree.withoutAttributes declaration), Tree.compact declaration⟩

end Parameter

namespace Parameters

/-- No parameters, and no brackets for them. -/
def none : Parameters := ⟨[], false⟩

/-- The parameters that a list in angled brackets declares. -/
def ofTrees (trees : List Tree) : Parameters :=
  let pieces := Tree.commaPieces trees
  ⟨pieces.map fun piece => .ofTrees piece.trees, pieces.getLast?.any (·.comma)⟩

/-- Parameters in angled brackets, each in the given form. Nothing is written for none. -/
def angled (form : Parameter → String) (parameters : Parameters) : String :=
  if parameters.list.isEmpty then ""
  else
    "<" ++ ",".intercalate (parameters.list.map form) ++
      (if parameters.comma then "," else "") ++ ">"

end Parameters

-- ================================================================== header

/-- What a definition says before its fields. -/
structure Header where
  name : String
  parameters : Parameters
  /-- The conditions on the parameters, if there are any. -/
  conditions? : Option String
  deriving Repr, DecidableEq

namespace Header

/-- The conditions that a clause states. A word that announces conditions states none. -/
def conditionsOf (clause : List Tree) : Option String :=
  if clause.length ≤ 1 then none else some (Tree.compact clause)

/-- The header that is written so. -/
def ofTrees : List Tree → Header
  | .word name :: .group .angled inside :: clause =>
    ⟨name, .ofTrees inside, conditionsOf clause⟩
  | .word name :: clause => ⟨name, .none, conditionsOf clause⟩
  | _ => ⟨"", .none, none⟩

/-- The header that a source text holds. -/
def ofSource (source : String) : Header := ofTrees (Tree.ofSource source)

end Header

end EnvSettings.Derive
