/-
The tokens of a piece of source text: words, lifetimes, literals and marks. A definition's parts
are compared and shown as tokens, so that the white space and the comments between them say
nothing. A comment that describes what follows it is another way to write an attribute, and is
read as one.

A token is found by its length: each kind of lexeme has a function that counts how many of the
characters behind its first one belong to it.
-/
import EnvSettings.Text.Blank
import EnvSettings.Text.Quoted

namespace EnvSettings.Derive

open EnvSettings.Text

-- ================================================================= tokens

/-- The smallest parts of a source text. -/
inductive Token
  /-- A name or a keyword; a raw name keeps its mark. -/
  | word (text : String)
  /-- A lifetime, without its apostrophe. -/
  | lifetime (name : String)
  /-- A number, a character or a quoted text, as it is written. -/
  | literal (source : String)
  /-- Any other character, or the arrow before a result. -/
  | mark (text : String)
  deriving Repr, DecidableEq

/-- The text that a token stands for. -/
def Token.text : Token → String
  | .word text => text
  | .lifetime name => "'" ++ name
  | .literal source => source
  | .mark text => text

-- ============================================================= characters

/-- The character is white space between tokens; the two marks of direction count too. -/
def isSpace (c : Char) : Bool := isBlank c || c = '\u200e' || c = '\u200f'

/-- The character may start a word. What is not ASCII and not white space may. -/
def startsWord (c : Char) : Bool := c.isAlpha || c = '_' || (128 ≤ c.toNat && !isSpace c)

/-- The character may go on with a word. -/
def continuesWord (c : Char) : Bool := startsWord c || c.isDigit

/-- How many characters a word goes on for. -/
def wordLength (cs : List Char) : Nat := (cs.takeWhile continuesWord).length

-- =============================================================== literals

/-- The length of what follows an opening quote, the closing one included. A backslash takes the
next character with it. -/
def quotedLength (quote : Char) : List Char → Nat
  | [] => 0
  | '\\' :: _ :: cs => 2 + quotedLength quote cs
  | c :: cs => if c = quote then 1 else 1 + quotedLength quote cs

/-- The length of what follows the opening quote of a raw text, which ends at a quote with as many
number signs behind it as stand before its opening one. -/
def rawBodyLength (signs : Nat) : List Char → Nat
  | [] => 0
  | c :: cs =>
    if c = '"' ∧ (List.replicate signs '#').isPrefixOf cs then 1 + signs
    else 1 + rawBodyLength signs cs

/-- The length of a raw text behind its letter, if one stands there. -/
def rawLength? (cs : List Char) : Option Nat :=
  let signs := (cs.takeWhile (· = '#')).length
  match cs.drop signs with
  | '"' :: body => some (signs + 1 + rawBodyLength signs body)
  | _ => none

/-- The length of the fraction of a number: a point, unless it belongs to a range or to a name,
and digits. -/
def fractionLength : List Char → Nat
  | '.' :: cs =>
    if cs.head?.any fun c => c = '.' || startsWord c then 0
    else 1 + (cs.takeWhile Char.isDigit).length
  | _ => 0

/-- The length of the exponent of a number: its letter, a sign and digits. -/
def exponentLength : List Char → Nat
  | e :: sign :: cs =>
    let digits (cs : List Char) : Nat := (cs.takeWhile fun c => c.isDigit || c = '_').length
    if e ≠ 'e' ∧ e ≠ 'E' then 0
    else if sign = '+' ∨ sign = '-' then if digits cs = 0 then 0 else 2 + digits cs
    else 0
  | _ => 0

/-- The length of a number behind its first digit. An exponent without a sign is like a unit part
of the word behind the digits. -/
def numberLength (cs : List Char) : Nat :=
  let whole := (cs.takeWhile fun c => c.isDigit || c = '_').length
  let fraction := whole + fractionLength (cs.drop whole)
  let exponent := fraction + exponentLength (cs.drop fraction)
  exponent + wordLength (cs.drop exponent)

/-- The length behind its first character of the literal that characters start with, if they
start with one. -/
def literalLength? (c : Char) (rest : List Char) : Option Nat :=
  match c, rest with
  | '"', cs => some (quotedLength '"' cs)
  | '\'', '\\' :: cs => some (quotedLength '\'' ('\\' :: cs))
  | '\'', _ :: '\'' :: _ => some 2
  | 'r', cs => rawLength? cs
  | 'b', '"' :: cs => some (1 + quotedLength '"' cs)
  | 'c', '"' :: cs => some (1 + quotedLength '"' cs)
  | 'b', '\'' :: cs => some (1 + quotedLength '\'' cs)
  | 'b', 'r' :: cs => (rawLength? cs).map (1 + ·)
  | 'c', 'r' :: cs => (rawLength? cs).map (1 + ·)
  | c, cs => if c.isDigit then some (numberLength cs) else none

-- =============================================================== comments

/-- The length of a comment on the rest of its line. -/
def lineLength (cs : List Char) : Nat := (cs.takeWhile (· ≠ '\n')).length

/-- The length of what follows the opening of a comment, its end included; `depth` more comments
are open around it. -/
def commentLength (depth : Nat) : List Char → Nat
  | '/' :: '*' :: cs => 2 + commentLength (depth + 1) cs
  | '*' :: '/' :: cs =>
    match depth with
    | 0 => 2
    | depth + 1 => 2 + commentLength depth cs
  | _ :: cs => 1 + commentLength depth cs
  | [] => 0

/-- The attribute that a description stands for. -/
def descriptionTokens (description : List Char) : List Token :=
  [.mark "#", .mark "[", .word "doc", .mark "=",
    .literal (String.ofList (quoteChars description)), .mark "]"]

/-- Drops a carriage return at the end. -/
def withoutReturn (cs : List Char) : List Char :=
  if cs.getLast? = some '\r' then cs.dropLast else cs

/-- The tokens that a comment on the rest of its line stands for, given what follows the two
slashes: those of a description if exactly one more slash does. -/
def lineCommentTokens : List Char → List Token
  | '/' :: '/' :: _ => []
  | '/' :: cs => descriptionTokens (withoutReturn (cs.take (lineLength cs)))
  | _ => []

/-- The tokens that a bracketed comment stands for, given what follows the slash and the star:
those of a description if exactly one more star does. -/
def blockCommentTokens : List Char → List Token
  | '*' :: '*' :: _ => []
  | '*' :: '/' :: _ => []
  | '*' :: cs => descriptionTokens (cs.take (commentLength 0 cs - 2))
  | _ => []

-- =============================================================== scanning

/-- A lexeme: the tokens it stands for, and how many characters it has behind its first one. -/
structure Lexeme where
  tokens : List Token
  more : Nat
  deriving Repr, DecidableEq

/-- A lexeme that stands for one token, which is made of its text. -/
def Lexeme.single (kind : String → Token) (c : Char) (rest : List Char) (more : Nat) : Lexeme :=
  ⟨[kind (String.ofList (c :: rest.take more))], more⟩

/-- The lexeme that characters start with. -/
def lexeme (c : Char) (rest : List Char) : Lexeme :=
  match c, rest with
  | '/', '/' :: cs => ⟨lineCommentTokens cs, 1 + lineLength cs⟩
  | '/', '*' :: cs => ⟨blockCommentTokens cs, 1 + commentLength 0 cs⟩
  | '-', '>' :: _ => .single .mark c rest 1
  | c, rest =>
    match literalLength? c rest with
    | some more => .single .literal c rest (more + wordLength (rest.drop more))
    | none =>
      if isSpace c then ⟨[], 0⟩
      else if c = '\'' then
        ⟨[.lifetime (String.ofList (rest.take (wordLength rest)))], wordLength rest⟩
      else if startsWord c then
        match c, rest with
        | 'r', '#' :: cs => .single .word c rest (1 + wordLength cs)
        | c, rest => .single .word c rest (wordLength rest)
      else .single .mark c rest 0

/-- Cuts a source text into its tokens. -/
def scan : List Char → List Token
  | [] => []
  | c :: rest =>
    let l := lexeme c rest
    l.tokens ++ scan (rest.drop l.more)
termination_by cs => cs.length
decreasing_by
  simp only [List.length_drop, List.length_cons]
  omega

/-- The tokens of a source text. -/
def tokens (s : String) : List Token := scan s.toList

/-- The characters without the spaces among them. -/
def withoutSpaces (cs : List Char) : String := String.ofList (cs.filter (· ≠ ' '))

end EnvSettings.Derive
