/-
Attributes: a name, and behind it nothing, a value, or a list of items in brackets of any kind.
An item is a key alone or a key with a value. What is wrong with an item is kept with it, because
it depends on who reads the list which of two faults comes first.
-/
import EnvSettings.Derive.Fault
import EnvSettings.Derive.Literal

namespace EnvSettings.Derive

-- ============================================================= attributes

/-- What stands behind the key of an item. -/
inductive ItemValue
  /-- No equals sign. -/
  | absent
  | literal (value : Literal)
  /-- No literal behind the equals sign; `atEnd` says that the list ends there. -/
  | noLiteral (atEnd : Bool)
  deriving Repr, DecidableEq

/-- An item among the arguments of an attribute. -/
inductive Item
  /-- A key with its value; `more` says that something else stands before the next comma. -/
  | keyed (key : String) (value : ItemValue) (more : Bool)
  | noKey (found : NoKey)
  deriving Repr, DecidableEq

/-- What stands behind an attribute's name. -/
inductive Argument
  | absent
  | value (literal : Literal)
  | items (items : List Item)
  deriving Repr, DecidableEq

/-- An attribute in front of a definition or a field. -/
structure Attribute where
  name : String
  argument : Argument
  deriving Repr, DecidableEq

-- =================================================================== names

/-- Splits off the rest of a path, of which a word has been read. Gives what follows the path, or
what stands in the place of a word. -/
def splitPathRest : List Tree → Except NoKey (List Tree × List Tree)
  | .mark ":" :: .mark ":" :: .word text :: trees => do
    let (path, rest) ← splitPathRest trees
    return (.mark ":" :: .mark ":" :: .word text :: path, rest)
  | .mark ":" :: .mark ":" :: trees => .error (.noWord trees.isEmpty)
  | trees => .ok ([], trees)

/-- Splits off a path, of which colons at its start have been read. -/
def splitPathStart (start : List Tree) : List Tree → Except NoKey (List Tree × List Tree)
  | .word text :: trees => do
    let (path, rest) ← splitPathRest trees
    return (start ++ .word text :: path, rest)
  | [] => .error .nothing
  | trees => .error (if (Literal.take? trees).isSome then .literal else .mark)

/-- Splits trees behind the path that they start with. -/
def splitPath : List Tree → Except NoKey (List Tree × List Tree)
  | .mark ":" :: .mark ":" :: trees => splitPathStart [.mark ":", .mark ":"] trees
  | trees => splitPathStart [] trees

-- ================================================================= reading

/-- Takes the value that an item has behind its key, if it has one, and leaves the rest. -/
def ItemValue.read : List Tree → ItemValue × List Tree
  | .mark "=" :: trees =>
    match Literal.take? trees with
    | some (value, rest) => (.literal value, rest)
    | none => (.noLiteral trees.isEmpty, trees)
  | trees => (.absent, trees)

/-- The item that a piece of a list is. In an empty piece the comma stands in the place of a
key. -/
def Item.ofPiece (piece : Tree.Piece) : Item :=
  match splitPath piece.written with
  | .error found => .noKey found
  | .ok (path, trees) =>
    let (value, rest) := ItemValue.read trees
    .keyed (Tree.compact path) value (rest.head?.any fun tree => !tree.isMark ",")

namespace Attribute

/-- The attribute that stands in square brackets. -/
def ofTrees (trees : List Tree) : Attribute :=
  match splitPath trees with
  | .error _ => ⟨Tree.compact trees, .absent⟩
  | .ok (path, rest) =>
    let argument :=
      match rest with
      | .mark "=" :: value => Argument.value (.ofTrees value)
      | .group _ inside :: _ => .items ((Tree.commaPieces inside).map Item.ofPiece)
      | _ => .absent
    ⟨Tree.compact path, argument⟩

/-- The attributes that stand in front, and what follows them. -/
def splitLeading : List Tree → List Attribute × List Tree
  | .mark "#" :: .group .square inside :: trees =>
    let (attributes, rest) := splitLeading trees
    (ofTrees inside :: attributes, rest)
  | trees => ([], trees)

/-- The attributes that a source text holds. -/
def listOfSource (source : String) : List Attribute := (splitLeading (Tree.ofSource source)).1

end Attribute

end EnvSettings.Derive
