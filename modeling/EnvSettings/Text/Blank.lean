/-
White space by the Unicode property `White_Space`, and trimming it off both ends of a text.
-/
import EnvSettings.Text.Ranges

namespace EnvSettings.Text

/-- The characters with the property `White_Space`. -/
def blankRanges : List (Nat × Nat) :=
  [(0x9, 0xd), (0x20, 0x20), (0x85, 0x85), (0xa0, 0xa0), (0x1680, 0x1680), (0x2000, 0x200a),
    (0x2028, 0x2029), (0x202f, 0x202f), (0x205f, 0x205f), (0x3000, 0x3000)]

/-- The character is a blank of any kind. -/
def isBlank (c : Char) : Bool := inRanges blankRanges c

/-- Takes the blanks at the end away. -/
def trimEnd (cs : List Char) : List Char :=
  (cs.reverse.dropWhile isBlank).reverse

/-- Drops the white space at both ends. -/
def trimBlank (cs : List Char) : List Char :=
  trimEnd (cs.dropWhile isBlank)

/-- Drops the white space at both ends of a string. -/
def trim (s : String) : String := String.ofList (trimBlank s.toList)

end EnvSettings.Text
