/-
Quoted text, as messages show the values they speak of. A text stands between double quotes; a
quote, a backslash and the common control characters have a two-character escape; a character
that would not show on its own stands as its code point in hexadecimal. What is inside the
quotes therefore never breaks a line, whatever the text was.
-/
import EnvSettings.Text.Visible

namespace EnvSettings.Text

-- =============================================================== one text

/-- The escape that gives a character by its code point: lower-case hexadecimal digits without
leading zeros, between braces. -/
def codePointEscape (c : Char) : List Char :=
  ['\\', 'u', '\x7b'] ++ Nat.toDigits 16 c.toNat ++ ['\x7d']

/-- How one character is written between the quotes. -/
def escape (c : Char) : List Char :=
  match c with
  | '"' => ['\\', '"']
  | '\\' => ['\\', '\\']
  | '\t' => ['\\', 't']
  | '\r' => ['\\', 'r']
  | '\n' => ['\\', 'n']
  | '\x00' => ['\\', '0']
  | c => if isVisible c then [c] else codePointEscape c

/-- The characters of a text, quoted. -/
def quoteChars (cs : List Char) : List Char :=
  '"' :: (cs.flatMap escape ++ ['"'])

/-- A text in quotes, where what a reader could not see is escaped. -/
def quote (s : String) : String := String.ofList (quoteChars s.toList)

-- ========================================================== several texts

/-- A list of texts on one line, each of them quoted. -/
def quoteAll (texts : List String) : String :=
  "[" ++ ", ".intercalate (texts.map quote) ++ "]"

end EnvSettings.Text
