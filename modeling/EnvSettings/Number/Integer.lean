/-
Integers of a fixed width, and reading them. A numeral is read digit by digit and every
intermediate value has to fit the type, so that of two faults the one further left is reported.
An integer literal may carry a sign and a radix mark (`0x`, `0o`, `0b` in either case).
-/
import EnvSettings.Number.Digit

namespace EnvSettings.Number

-- =================================================================== types

/-- How many bits an integer type has; a machine word has 64. -/
inductive IntWidth
  | bits8 | bits16 | bits32 | bits64 | word
  deriving Repr, DecidableEq

/-- How many bits there are. -/
def IntWidth.bits : IntWidth → Nat
  | .bits8 => 8
  | .bits16 => 16
  | .bits32 => 32
  | .bits64 => 64
  | .word => 64

/-- A type of integers. -/
structure IntType where
  signed : Bool
  width : IntWidth
  deriving Repr, DecidableEq

namespace IntType

/-- The least integer of a type. -/
def least (t : IntType) : Int :=
  if t.signed then -(1 <<< (t.width.bits - 1) : Nat) else 0

/-- The greatest integer of a type. -/
def greatest (t : IntType) : Int :=
  if t.signed then (1 <<< (t.width.bits - 1) : Nat) - 1 else (1 <<< t.width.bits : Nat) - 1

/-- The integers in the type's range. -/
def Value (t : IntType) : Type := { v : Int // t.least ≤ v ∧ v ≤ t.greatest }

/-- Zero is in the range of every type. -/
theorem zero_inRange (t : IntType) : t.least ≤ 0 ∧ (0 : Int) ≤ t.greatest := by
  obtain ⟨signed, width⟩ := t
  cases signed <;> cases width <;> decide

/-- The zero of a type. -/
def zero (t : IntType) : t.Value := ⟨0, t.zero_inRange⟩

/-- The type's name: a letter for the sign rule and the width. -/
def name (t : IntType) : String :=
  (if t.signed then "i" else "u") ++
    match t.width with
    | .word => "size"
    | w => toString w.bits

end IntType

-- ================================================================ numerals

/-- Why a numeral denotes no value of a type. -/
inductive IntFault
  | empty
  | invalidDigit
  | tooLarge
  | tooSmall
  deriving Repr, DecidableEq

/-- Why a text is no integer of a type, in words. -/
def IntFault.message : IntFault → String
  | .empty => "cannot parse integer from empty string"
  | .invalidDigit => "invalid digit found in string"
  | .tooLarge => "number too large to fit in target type"
  | .tooSmall => "number too small to fit in target type"

/-- Reads digits onto `acc`, upwards or downwards. -/
def IntType.accumulate (t : IntType) (radix : Nat) (negative : Bool) (acc : t.Value) :
    List Char → Except IntFault t.Value
  | [] => .ok acc
  | c :: rest =>
    match digitValue? radix c with
    | none => .error .invalidDigit
    | some d =>
      let next : Int := if negative then acc.1 * radix - d else acc.1 * radix + d
      if h : t.least ≤ next ∧ next ≤ t.greatest then
        t.accumulate radix negative ⟨next, h⟩ rest
      else .error (if negative then .tooSmall else .tooLarge)

/-- Reads a numeral: an optional sign, a minus sign for signed types only, and at least one digit
of the radix. -/
def IntType.ofNumeral (t : IntType) (radix : Nat) : List Char → Except IntFault t.Value
  | [] => .error .empty
  | '+' :: digits =>
    if digits = [] then .error .invalidDigit else t.accumulate radix false t.zero digits
  | '-' :: digits =>
    if digits = [] then .error .invalidDigit
    else if t.signed then t.accumulate radix true t.zero digits
    else .error .invalidDigit
  | digits => t.accumulate radix false t.zero digits

-- ================================================================ literals

/-- An integer literal cut into its parts; a plus sign leaves no trace. -/
structure IntLiteral where
  sign : List Char
  digits : List Char
  radix : Nat
  deriving Repr, DecidableEq

/-- Cuts the radix mark off unsigned digits. -/
def splitRadixMark : List Char → Nat × List Char
  | '0' :: 'x' :: digits => (16, digits)
  | '0' :: 'X' :: digits => (16, digits)
  | '0' :: 'o' :: digits => (8, digits)
  | '0' :: 'O' :: digits => (8, digits)
  | '0' :: 'b' :: digits => (2, digits)
  | '0' :: 'B' :: digits => (2, digits)
  | digits => (10, digits)

/-- Cuts the sign off a text. -/
def splitSign : List Char → List Char × List Char
  | '-' :: rest => (['-'], rest)
  | '+' :: rest => ([], rest)
  | cs => ([], cs)

/-- Cuts a text into sign, radix mark and digits. Whether the digits are digits is not asked. -/
def IntLiteral.split (cs : List Char) : IntLiteral :=
  let (sign, rest) := splitSign cs
  let (radix, digits) := splitRadixMark rest
  ⟨sign, digits, radix⟩

/-- Why a text is no literal of an integer type. -/
inductive IntLiteralFault
  /-- A second sign stands where the digits should start. -/
  | secondSign
  | numeral (fault : IntFault)
  deriving Repr, DecidableEq

/-- The text begins with a plus or a minus. -/
def startsWithSign : List Char → Bool
  | '+' :: _ => true
  | '-' :: _ => true
  | _ => false

/-- Reads a literal: a sign, a prefix for the radix, and digits, before which no second sign may
stand. -/
def IntType.ofLiteral (t : IntType) (cs : List Char) : Except IntLiteralFault t.Value :=
  let literal := IntLiteral.split cs
  if startsWithSign literal.digits then .error .secondSign
  else
    match t.ofNumeral literal.radix (literal.sign ++ literal.digits) with
    | .ok v => .ok v
    | .error fault => .error (.numeral fault)

end EnvSettings.Number
