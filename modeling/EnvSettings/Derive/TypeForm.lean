/-
The form of a field's type, as far as it tells whether the field owns its value. A reference and
a raw pointer do not, and neither do the three shared or boxed owners, which are known by the
last name of their path. Brackets around a type change nothing.
-/
import EnvSettings.Derive.Tree

namespace EnvSettings.Derive

-- =================================================================== form

/-- The form of a type, as far as visits depend on it. -/
inductive TypeForm
  | reference
  | rawPointer
  /-- A path, with the name of its last segment. -/
  | path (last : String)
  /-- A type in parentheses. -/
  | enclosed (inner : TypeForm)
  /-- A type in brackets that are not written. -/
  | grouped (inner : TypeForm)
  /-- Any other type: a tuple, an array, a function, a trait object and so on. -/
  | other
  deriving Repr, DecidableEq

namespace TypeForm

/-- The paths that lead to a value elsewhere. -/
def indirectNames : List String := ["Box", "Rc", "Arc"]

/-- The type stands for a value that is stored elsewhere. -/
def isPointer : TypeForm → Bool
  | .reference => true
  | .rawPointer => true
  | .path last => indirectNames.contains last
  | .enclosed inner => inner.isPointer
  | .grouped inner => inner.isPointer
  | .other => false

-- ================================================================ reading

/-- The words that begin a type which is no path. -/
def formWords : List String := ["dyn", "impl", "fn", "unsafe", "extern", "for", "_"]

/-- The tree can begin a path. -/
def beginsPath : Tree → Bool
  | .word text => !formWords.contains text
  | .mark text => text = ":"
  | .group .angled _ => true
  | _ => false

/-- The last word among trees, outside of all brackets. -/
def lastWord? : List Tree → Option String
  | [] => none
  | .word text :: trees => some ((lastWord? trees).getD text)
  | _ :: trees => lastWord? trees

/-- The form of a type that begins like a path. What follows an arrow belongs to the arguments of
a segment; a sum or an exclamation mark makes the whole something other than a path. -/
def ofPath (trees : List Tree) : TypeForm :=
  let spine := trees.takeWhile fun tree => !tree.isMark "->"
  if trees.any (·.isMark "+") || spine.any (·.isMark "!") then .other
  else
    match lastWord? spine with
    | some last => .path last
    | none => .other

/-- The form of a type given by its trees. Parentheses around nothing or around a list are no
parentheses around a type. -/
def ofTrees : List Tree → TypeForm
  | [.group .round inside] =>
    if inside.isEmpty || inside.any (·.isMark ",") then .other else .enclosed (ofTrees inside)
  | .mark "&" :: _ => .reference
  | .mark "*" :: _ => .rawPointer
  | tree :: trees => if beginsPath tree then ofPath (tree :: trees) else .other
  | [] => .other

end TypeForm

-- =================================================================== type

/-- A type as a definition writes it. -/
structure TypeText where
  /-- The text without spaces. -/
  text : String
  form : TypeForm
  deriving Repr, DecidableEq

/-- The type that a source text holds; `grouped` says that brackets which are not written stand
around it. -/
def TypeText.ofSource (source : String) (grouped : Bool) : TypeText :=
  let trees := Tree.ofSource source
  let form := TypeForm.ofTrees trees
  ⟨Tree.compact trees, if grouped then .grouped form else form⟩

end EnvSettings.Derive
