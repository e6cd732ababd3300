/-
Tokens with the structure that brackets give them. Round, square and curly brackets always come
in pairs. Angled ones do where types stand, and are comparisons where values do: inside curly
brackets, behind the semicolon of an array, and in what an attribute or a macro is given.

What stands in angled brackets is kept in the order in which it is shown, lifetimes first.
-/
import EnvSettings.Derive.Token

namespace EnvSettings.Derive

-- ================================================================== trees

/-- The kinds of brackets. -/
inductive Bracket
  | round | square | curly | angled
  deriving Repr, DecidableEq

/-- The bracket that opens a group. -/
def Bracket.opening : Bracket → String
  | .round => "("
  | .square => "["
  | .curly => "\x7b"
  | .angled => "<"

/-- The bracket that closes a group. -/
def Bracket.closing : Bracket → String
  | .round => ")"
  | .square => "]"
  | .curly => "\x7d"
  | .angled => ">"

/-- All kinds of brackets. -/
def Bracket.all : List Bracket := [.round, .square, .curly, .angled]

/-- A token, or what stands in a pair of brackets. -/
inductive Tree
  | leaf (token : Token)
  | group (bracket : Bracket) (inside : List Tree)
  deriving Repr

namespace Tree

/-- A word on its own. -/
@[match_pattern] def word (text : String) : Tree := .leaf (.word text)

/-- A lifetime on its own. -/
@[match_pattern] def lifetime (name : String) : Tree := .leaf (.lifetime name)

/-- A literal on its own. -/
@[match_pattern] def literal (source : String) : Tree := .leaf (.literal source)

/-- A mark on its own. -/
@[match_pattern] def mark (text : String) : Tree := .leaf (.mark text)

/-- The tree is the given mark. -/
def isMark (text : String) : Tree → Bool
  | .mark other => other = text
  | _ => false

mutual

/-- The characters of a tree, without blanks between its tokens. -/
def chars : Tree → List Char
  | .leaf token => token.text.toList
  | .group bracket inside => bracket.opening.toList ++ charsAll inside ++ bracket.closing.toList

/-- The characters of trees, one after the other. -/
def charsAll : List Tree → List Char
  | [] => []
  | tree :: trees => chars tree ++ charsAll trees

end

/-- Trees written one after the other without any space, also within literals. -/
def compact (trees : List Tree) : String := withoutSpaces (charsAll trees)

-- ================================================================= pieces

/-- Splits trees at a mark. -/
def splitAt (text : String) : List Tree → List (List Tree)
  | [] => [[]]
  | tree :: trees =>
    if tree.isMark text then [] :: splitAt text trees
    else
      match splitAt text trees with
      | [] => [[tree]]
      | piece :: pieces => (tree :: piece) :: pieces

/-- A piece of a list, and whether a comma stands behind it. -/
structure Piece where
  trees : List Tree
  comma : Bool
  deriving Repr

/-- Tells of every piece whether a comma stands behind it. What follows the last comma is a piece
only if something does. -/
def Piece.ofSplit : List (List Tree) → List Piece
  | [] => []
  | [last] => if last.isEmpty then [] else [⟨last, false⟩]
  | piece :: pieces => ⟨piece, true⟩ :: ofSplit pieces

/-- The pieces of a list between its commas. -/
def commaPieces (trees : List Tree) : List Piece := Piece.ofSplit (splitAt "," trees)

/-- The trees of a piece, with its comma. -/
def Piece.written (piece : Piece) : List Tree :=
  piece.trees ++ if piece.comma then [.mark ","] else []

/-- Drops the attributes that stand in front. -/
def withoutAttributes : List Tree → List Tree
  | .mark "#" :: .group .square _ :: trees => withoutAttributes trees
  | trees => trees

/-- A lifetime, as a parameter or as an argument. In a sum it is part of a type. -/
def Piece.isLifetime (piece : Piece) : Bool :=
  match withoutAttributes piece.trees with
  | .lifetime _ :: .mark "+" :: _ => false
  | .lifetime _ :: _ => true
  | _ => false

/-- A list with its lifetimes first. A comma is put behind the last lifetime where it has none and
others follow. -/
def lifetimesFirst (trees : List Tree) : List Tree :=
  let (lifetimes, others) := (commaPieces trees).partition Piece.isLifetime
  let lacking := !others.isEmpty && lifetimes.getLast?.any fun piece => !piece.comma
  lifetimes.flatMap Piece.written ++ (if lacking then [.mark ","] else []) ++
    others.flatMap Piece.written

-- ================================================================ nesting

/-- An open bracket, or what is outside of all. -/
structure Level where
  bracket? : Option Bracket
  /-- Values stand here, so that angled brackets are comparisons. -/
  holdsValues : Bool
  /-- What has been seen here, the last first. -/
  seen : List Tree
  deriving Repr

namespace Level

/-- Adds a tree. Behind the semicolon of an array stand values. -/
def add (level : Level) (tree : Tree) : Level where
  bracket? := level.bracket?
  holdsValues :=
    level.holdsValues || (level.bracket? = some .square && tree.isMark ";")
  seen := tree :: level.seen

/-- The level of a bracket that is opened here. -/
def inside (level : Level) (bracket : Bracket) : Level where
  bracket? := some bracket
  holdsValues :=
    level.holdsValues || bracket = .curly ||
      level.seen.head?.any fun last => last.isMark "#" || last.isMark "!"
  seen := []

/-- What stands in a bracket that is closed. -/
def contents (level : Level) (bracket : Bracket) : List Tree :=
  let inside := level.seen.reverse
  if bracket = .angled then lifetimesFirst inside else inside

end Level

/-- The levels that are open, the innermost one apart from those around it. -/
structure Nesting where
  inner : Level
  outer : List Level
  deriving Repr

namespace Nesting

/-- Nothing is open, and nothing has been seen. -/
def start : Nesting := ⟨⟨none, false, []⟩, []⟩

/-- Makes marks of the angled brackets that turn out to be left open. -/
def dissolve (inner : Level) : List Level → Nesting
  | [] => ⟨inner, []⟩
  | next :: outer =>
    if inner.bracket? = some .angled then
      dissolve { next with seen := inner.seen ++ .mark "<" :: next.seen } outer
    else ⟨inner, next :: outer⟩

/-- A bracket opens inside. -/
def opened (nesting : Nesting) (bracket : Bracket) : Nesting :=
  ⟨nesting.inner.inside bracket, nesting.inner :: nesting.outer⟩

/-- Closes a bracket, if it is the innermost open one. -/
def closed? (nesting : Nesting) (bracket : Bracket) : Option Nesting :=
  match nesting.outer with
  | [] => none
  | next :: outer =>
    if nesting.inner.bracket? = some bracket then
      some ⟨next.add (.group bracket (nesting.inner.contents bracket)), outer⟩
    else none

/-- Takes one more token in. -/
def step (nesting : Nesting) (token : Token) : Nesting :=
  let plain : Nesting := { nesting with inner := nesting.inner.add (.leaf token) }
  match Bracket.all.find? fun bracket => token = .mark bracket.opening with
  | some .angled => if nesting.inner.holdsValues then plain else nesting.opened .angled
  | some bracket => nesting.opened bracket
  | none =>
    match Bracket.all.find? fun bracket => token = .mark bracket.closing with
    | some .angled => (nesting.closed? .angled).getD plain
    | some bracket => ((dissolve nesting.inner nesting.outer).closed? bracket).getD plain
    | none => plain

end Nesting

/-- The trees that tokens form. What is still open in the end is dissolved. -/
def ofTokens (tokens : List Token) : List Tree :=
  let nesting := tokens.foldl Nesting.step .start
  (Nesting.dissolve nesting.inner nesting.outer).inner.seen.reverse

/-- The trees of a source text. -/
def ofSource (source : String) : List Tree := ofTokens (tokens source)

end Tree

end EnvSettings.Derive
