/-
Binary floating point in two formats, and reading it from decimal text with correct rounding.

A finite float is a sign and a whole number of the format's smallest subnormal. In that unit a
decimal text is a ratio of two natural numbers, and the nearest float, a tie going to the even
neighbour, is found by one division: the spacing of the floats around a ratio is one unit as
long as the ratio has no more bits than the format's precision, and doubles with every bit more.
-/
import EnvSettings.Number.Digit

namespace EnvSettings.Number

-- ================================================================= formats

/-- The two widths of binary floating point. -/
inductive FloatFormat
  | single | double
  deriving Repr, DecidableEq

namespace FloatFormat

/-- The bits of a significand, the leading one included. -/
def precision : FloatFormat → Nat
  | .single => 24
  | .double => 53

/-- How many bits the exponent has. -/
def exponentBits : FloatFormat → Nat
  | .single => 8
  | .double => 11

/-- The smallest subnormal is two to minus this power. -/
def unitExponent : FloatFormat → Nat
  | .single => 149
  | .double => 1074

/-- The greatest finite magnitude, in units of the smallest subnormal. -/
def greatest (f : FloatFormat) : Nat :=
  (1 <<< f.precision - 1) <<< (1 <<< f.exponentBits - 3)

/-- The name of the type of such numbers. -/
def name : FloatFormat → String
  | .single => "f32"
  | .double => "f64"

end FloatFormat

/-- A binary float: not a number, an infinity, or a signed whole number of smallest subnormals. -/
inductive BinaryFloat
  | nan
  | infinite (negative : Bool)
  | finite (negative : Bool) (magnitude : Nat)
  deriving Repr, DecidableEq

-- ================================================================ rounding

/-- The whole number nearest to `n / d`, a half going to the even neighbour. -/
def roundHalfEven (n d : Nat) : Nat :=
  let whole := n / d
  let twice := 2 * (n % d)
  if twice < d then whole
  else if d < twice then whole + 1
  else if whole % 2 = 0 then whole else whole + 1

/-- The magnitude of the format's precision nearest to `n / d`, with no bound on its size. -/
def nearestMagnitude (f : FloatFormat) (n d : Nat) : Nat :=
  let spacing := 1 <<< ((n / d).log2 + 1 - f.precision)
  roundHalfEven n (d * spacing) * spacing

/-- The float of the format nearest to `n / d` units; beyond the greatest one, an infinity. -/
def BinaryFloat.nearest (f : FloatFormat) (negative : Bool) (n d : Nat) : BinaryFloat :=
  let magnitude := nearestMagnitude f n d
  if magnitude ≤ f.greatest then .finite negative magnitude else .infinite negative

-- ============================================================ decimal text

/-- A decimal number: an unsigned significand times a power of ten. -/
structure Decimal where
  negative : Bool
  significand : Nat
  exponent : Int
  deriving Repr, DecidableEq

/-- Beyond this power of ten, up or down, every format has only infinity or zero. -/
def Decimal.horizon : Int := 400

/-- The float nearest to a decimal number. Numbers beyond the horizon are settled by their size
alone, so that a long exponent costs nothing. -/
def Decimal.toFloat (f : FloatFormat) (x : Decimal) : BinaryFloat :=
  if x.significand = 0 then .finite x.negative 0
  else if horizon < x.exponent then .infinite x.negative
  else if x.exponent + ((Nat.toDigits 10 x.significand).length : Int) < -horizon then
    .finite x.negative 0
  else
    .nearest f x.negative ((x.significand * Nat.pow 10 x.exponent.toNat) <<< f.unitExponent)
      (Nat.pow 10 (-x.exponent).toNat)

/-- What a floating point literal says. -/
inductive FloatLiteral
  | decimal (x : Decimal)
  | infinite (negative : Bool)
  | nan
  deriving Repr, DecidableEq

/-- Reads an exponent: an optional sign and at least one digit, up to the end. -/
def readExponent (cs : List Char) : Option Int :=
  let (negative, digits) :=
    match cs with
    | '-' :: rest => (true, rest)
    | '+' :: rest => (false, rest)
    | cs => (false, cs)
  if digits = [] ∨ !digits.all Char.isDigit then none
  else
    let value : Int := valueOf 10 digits
    some (if negative then -value else value)

/-- Reads an unsigned decimal number: digits with an optional point among or around them and an
optional exponent, up to the end. -/
def readDecimal (negative : Bool) (cs : List Char) : Option Decimal :=
  let (whole, rest) := spanDigits cs
  let (fraction, rest) :=
    match rest with
    | '.' :: rest => spanDigits rest
    | rest => ([], rest)
  if whole = [] ∧ fraction = [] then none
  else
    let scaled (exponent : Int) : Decimal :=
      ⟨negative, valueOf 10 (whole ++ fraction), exponent - fraction.length⟩
    match rest with
    | [] => some (scaled 0)
    | 'e' :: rest => (readExponent rest).map scaled
    | 'E' :: rest => (readExponent rest).map scaled
    | _ => none

/-- The two texts are equal up to the case of ASCII letters. -/
def sameIgnoringCase (a b : List Char) : Bool :=
  a.map Char.toLower == b.map Char.toLower

/-- Reads the name of a value that is not finite. -/
def readNonFinite (negative : Bool) (cs : List Char) : Option FloatLiteral :=
  if sameIgnoringCase cs "nan".toList then some .nan
  else if sameIgnoringCase cs "inf".toList || sameIgnoringCase cs "infinity".toList then
    some (.infinite negative)
  else none

/-- Why a text is no floating point literal. -/
inductive FloatFault
  | empty
  | invalid
  deriving Repr, DecidableEq

/-- Why a text is no number, in words. -/
def FloatFault.message : FloatFault → String
  | .empty => "cannot parse float from empty string"
  | .invalid => "invalid float literal"

/-- Reads a floating point literal: an optional sign, then a decimal number or the name of a
value that is not finite. -/
def FloatLiteral.read (cs : List Char) : Except FloatFault FloatLiteral :=
  let (negative, unsigned) :=
    match cs with
    | '-' :: rest => (true, rest)
    | '+' :: rest => (false, rest)
    | cs => (false, cs)
  if cs = [] then .error .empty
  else
    match readDecimal negative unsigned with
    | some x => .ok (.decimal x)
    | none =>
      match readNonFinite negative unsigned with
      | some literal => .ok literal
      | none => .error .invalid

/-- The float that a literal denotes in a format. -/
def FloatLiteral.toFloat (f : FloatFormat) : FloatLiteral → BinaryFloat
  | .decimal x => x.toFloat f
  | .infinite negative => .infinite negative
  | .nan => .nan

-- ==================================================================== bits

/-- The interchange encoding as one number: sign, exponent field and fraction field. Every value
that is not a number has the quiet pattern with an otherwise empty fraction. -/
def BinaryFloat.bits (f : FloatFormat) : BinaryFloat → Nat
  | .nan => (1 <<< f.exponentBits - 1) <<< (f.precision - 1) + 1 <<< (f.precision - 2)
  | .infinite negative => signBit negative + (1 <<< f.exponentBits - 1) <<< (f.precision - 1)
  | .finite negative magnitude =>
    if magnitude < 1 <<< (f.precision - 1) then signBit negative + magnitude
    else
      let shift := magnitude.log2 + 1 - f.precision
      signBit negative + shift <<< (f.precision - 1) + magnitude >>> shift
where
  /-- The sign's share of the encoding. -/
  signBit (negative : Bool) : Nat :=
    if negative then 1 <<< (f.precision - 1 + f.exponentBits) else 0

/-- The encoding in hexadecimal digits, all of them. -/
def BinaryFloat.hex (f : FloatFormat) (x : BinaryFloat) : String :=
  let digits := Nat.toDigits 16 (x.bits f)
  let width := (f.precision + f.exponentBits) / 4
  String.ofList (List.replicate (width - digits.length) '0' ++ digits)

end EnvSettings.Number
