/-
Sizes in bytes, read as a number with a binary unit and written in the largest unit that fits.

Reading asks for digits and an optional unit, in that order and nothing else; whether the number
is too large is asked only once the form is right. Writing shows at most one decimal digit,
rounded down and left out when it is zero.
-/
import EnvSettings.Number.Digit
import EnvSettings.Text.Quoted

namespace EnvSettings

open EnvSettings.Number EnvSettings.Text

/-- A size that fits into 64 bits. -/
structure ByteSize where
  bytes : Nat
  bytes_lt : bytes < 1 <<< 64
  deriving Repr, DecidableEq

namespace ByteSize

/-- No bytes at all. -/
def zero : ByteSize := ⟨0, by decide⟩

-- ================================================================= reading

/-- Why a text is no size. -/
inductive Fault
  /-- Not digits with an optional unit. -/
  | format (input : String)
  /-- The number alone exceeds 64 bits. -/
  | number (input : String)
  /-- The number times its unit exceeds 64 bits. -/
  | overflow (input : String)
  deriving Repr, DecidableEq

/-- What is wrong, in words that quote the text. -/
def Fault.message : Fault → String
  | .format input =>
    s!"input {quote input} does not match format: " ++
      "digits with an optional B/KiB/MiB/GiB/TiB/PiB"
  | .number input => s!"parsing {quote input}: number too large to fit in target type"
  | .overflow input => s!"size {input} overflows u64"

/-- The unit that a suffix names, in bytes; no suffix is a byte. -/
def unitOf? : List Char → Option Nat
  | [] => some 1
  | ['B'] => some 1
  | ['K', 'i', 'B'] => some (1 <<< 10)
  | ['M', 'i', 'B'] => some (1 <<< 20)
  | ['G', 'i', 'B'] => some (1 <<< 30)
  | ['T', 'i', 'B'] => some (1 <<< 40)
  | ['P', 'i', 'B'] => some (1 <<< 50)
  | _ => none

/-- Reads a size: digits, and behind them a unit or nothing. -/
def ofText (input : String) : Except Fault ByteSize :=
  let (digits, suffix) := spanDigits input.toList
  if digits = [] then .error (.format input)
  else
    match unitOf? suffix with
    | none => .error (.format input)
    | some unit =>
      let number := valueOf 10 digits
      if number < 1 <<< 64 then
        if h : number * unit < 1 <<< 64 then .ok ⟨number * unit, h⟩ else .error (.overflow input)
      else .error (.number input)

-- ================================================================= writing

/-- A count of bytes in a unit, cut down to one decimal digit. -/
def inUnit (bytes unit : Nat) : String :=
  let whole := bytes / unit
  let tenths := bytes % unit * 10 / unit
  if tenths = 0 then toString whole else s!"{whole}.{tenths}"

/-- The size in the largest unit that it fills. -/
def text (size : ByteSize) : String :=
  let bytes := size.bytes
  if bytes < 1 <<< 10 then s!"{bytes}B"
  else if bytes < 1 <<< 20 then inUnit bytes (1 <<< 10) ++ "KiB"
  else if bytes < 1 <<< 30 then inUnit bytes (1 <<< 20) ++ "MiB"
  else if bytes < 1 <<< 40 then inUnit bytes (1 <<< 30) ++ "GiB"
  else if bytes < 1 <<< 50 then inUnit bytes (1 <<< 40) ++ "TiB"
  else inUnit bytes (1 <<< 50) ++ "PiB"

end ByteSize

end EnvSettings
