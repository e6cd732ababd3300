/-
Values laid out over several lines for a reader: every part on a line of its own, four spaces
deeper than the whole and with a comma behind it.
-/
import EnvSettings.Text.Quoted

namespace EnvSettings.Text

/-- A value as a reader sees it. -/
inductive Pretty
  /-- A text that is shown as it stands. -/
  | atom (text : String)
  /-- A name around one part. -/
  | wrapped (name : String) (part : Pretty)
  /-- Parts in brackets. -/
  | list (parts : List Pretty)
  /-- Named parts in braces. -/
  | record (name : String) (parts : List (String × Pretty))

namespace Pretty

/-- The start of a line at a depth. -/
def indent (depth : Nat) : String := String.ofList (List.replicate (4 * depth) ' ')

mutual

/-- Lays a value out; `depth` is the depth of the line that it starts on. -/
def render (depth : Nat) : Pretty → String
  | .atom text => text
  | .wrapped name part =>
    s!"{name}(\n{indent (depth + 1)}{render (depth + 1) part},\n{indent depth})"
  | .list [] => "[]"
  | .list (part :: parts) =>
    "[\n" ++ renderParts (depth + 1) (part :: parts) ++ indent depth ++ "]"
  | .record name parts =>
    name ++ " \x7b\n" ++ renderFields (depth + 1) parts ++ indent depth ++ "\x7d"

/-- Lays parts out, each on its line. -/
def renderParts (depth : Nat) : List Pretty → String
  | [] => ""
  | part :: rest => s!"{indent depth}{render depth part},\n" ++ renderParts depth rest

/-- Lays named parts out, each on its line. -/
def renderFields (depth : Nat) : List (String × Pretty) → String
  | [] => ""
  | (name, part) :: rest =>
    s!"{indent depth}{name}: {render depth part},\n" ++ renderFields depth rest

end

/-- A text in quotes. -/
def quoted (text : String) : Pretty := .atom (quote text)

/-- What may be missing. -/
def optional : Option Pretty → Pretty
  | none => .atom "None"
  | some part => .wrapped "Some" part

end Pretty

end EnvSettings.Text
