/-
The literals that can be the value of something in an attribute. Only texts and truth values are
told apart; of a text it is known what it stands for.
-/
import EnvSettings.Derive.Tree
import EnvSettings.Number.Digit

namespace EnvSettings.Derive

open EnvSettings.Number EnvSettings.Text

-- ================================================================ literals

/-- A literal, as far as settings tell them apart. -/
inductive Literal
  | text (value : String)
  | bool (value : Bool)
  /-- A number, a character, bytes and so on. -/
  | other
  deriving Repr, DecidableEq

-- ================================================================= escapes

/-- The character of a code point written in hexadecimal digits, between which underscores may
stand. -/
def codePoint (digits : List Char) : Char := Char.ofNat (valueOf 16 (digits.filter (· ≠ '_')))

/-- The characters that the inside of a quoted text stands for. A backslash at the end of a line
takes the white space behind it away; the end of a line is one newline. -/
def unescape (cs : List Char) : List Char :=
  match cs with
  | [] => []
  | '\\' :: 'n' :: cs => '\n' :: unescape cs
  | '\\' :: 'r' :: cs => '\r' :: unescape cs
  | '\\' :: 't' :: cs => '\t' :: unescape cs
  | '\\' :: '0' :: cs => '\x00' :: unescape cs
  | '\\' :: 'x' :: high :: low :: cs => codePoint [high, low] :: unescape cs
  | '\\' :: 'u' :: '\x7b' :: cs =>
    codePoint (cs.takeWhile (· ≠ '\x7d')) :: unescape ((cs.dropWhile (· ≠ '\x7d')).drop 1)
  | '\\' :: c :: cs => if isBlank c then unescape (cs.dropWhile isBlank) else c :: unescape cs
  | '\r' :: '\n' :: cs => '\n' :: unescape cs
  | c :: cs => c :: unescape cs
termination_by cs.length
decreasing_by
  all_goals
    have hcode := (List.dropWhile_sublist (l := cs) (· ≠ '\x7d')).length_le
    have hblank := (List.dropWhile_sublist (l := cs) isBlank).length_le
    simp only [List.length_cons, List.length_drop]
    omega

-- ================================================================= reading

namespace Literal

/-- What a raw text stands for, given what follows its letter. -/
def rawText (cs : List Char) : List Char :=
  let signs := (cs.takeWhile (· = '#')).length
  let body := cs.drop (signs + 1)
  body.take (rawBodyLength signs body - (signs + 1))

/-- The value of a literal as it is written. -/
def ofSource (source : String) : Literal :=
  match source.toList with
  | '"' :: cs => .text (String.ofList (unescape (cs.take (quotedLength '"' cs - 1))))
  | 'r' :: cs => .text (String.ofList (rawText cs))
  | _ => .other

/-- Takes the literal that trees start with. A minus sign belongs to the number behind it. -/
def take? : List Tree → Option (Literal × List Tree)
  | .literal source :: trees => some (.ofSource source, trees)
  | .word "true" :: trees => some (.bool true, trees)
  | .word "false" :: trees => some (.bool false, trees)
  | .mark "-" :: .literal source :: trees =>
    if source.toList.head?.any Char.isDigit then some (.other, trees) else none
  | _ => none

/-- The value of an expression, which is known only where it is a literal. -/
def ofTrees (trees : List Tree) : Literal :=
  match take? trees with
  | some (literal, []) => literal
  | _ => .other

end Literal

end EnvSettings.Derive
