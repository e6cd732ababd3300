/-
Addresses of four octets in dotted decimal. Octets carry no leading zeros, so that every
address has one written form.
-/
import EnvSettings.Number.Digit

namespace EnvSettings.Address

open EnvSettings.Number

-- ================================================================= numbers

/-- Reads a number at the front of a text: the whole run of digits of the radix, which has to
be non-empty and to denote a number below `bound`. -/
def readNumber (radix bound : Nat) (cs : List Char) : Option (Fin bound × List Char) :=
  let digits := cs.takeWhile (isDigitOf radix)
  let value := valueOf radix digits
  if digits = [] then none
  else if h : value < bound then some (⟨value, h⟩, cs.dropWhile (isDigitOf radix))
  else none

/-- Reads one given character at the front of a text. -/
def readChar (expected : Char) : List Char → Option (List Char)
  | [] => none
  | c :: rest => if c = expected then some rest else none

/-- Keeps a reading only if it reached the end of the text. -/
def atEnd {α : Type} : Option (α × List Char) → Option α
  | some (a, []) => some a
  | _ => none

-- =============================================================== addresses

/-- An address of four octets. -/
structure Ipv4 where
  a : Fin 256
  b : Fin 256
  c : Fin 256
  d : Fin 256
  deriving Repr, DecidableEq

namespace Ipv4

/-- The address of no host. -/
def unspecified : Ipv4 := ⟨0, 0, 0, 0⟩

/-- Reads an octet: one to three decimal digits, without a leading zero unless it is zero. -/
def readOctet (cs : List Char) : Option (Fin 256 × List Char) :=
  let digits := cs.takeWhile (isDigitOf 10)
  if 3 < digits.length ∨ (digits.head? = some '0' ∧ 1 < digits.length) then none
  else readNumber 10 256 cs

/-- Reads an address at the front of a text. -/
def read (cs : List Char) : Option (Ipv4 × List Char) := do
  let (a, cs) ← readOctet cs
  let cs ← readChar '.' cs
  let (b, cs) ← readOctet cs
  let cs ← readChar '.' cs
  let (c, cs) ← readOctet cs
  let cs ← readChar '.' cs
  let (d, cs) ← readOctet cs
  return (⟨a, b, c, d⟩, cs)

/-- The address in dotted decimal. -/
def text (ip : Ipv4) : String :=
  s!"{ip.a.val}.{ip.b.val}.{ip.c.val}.{ip.d.val}"

end Ipv4

end EnvSettings.Address
