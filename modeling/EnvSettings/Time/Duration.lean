/-
Spans of time written as a sum of numbers with units, such as `1.5h` or `2h45m`.

A text is a sequence of segments; each has digits, a point among or around them if it likes,
and a unit that runs up to the next digit or point. A segment's value is its whole part times
the unit plus, for every digit of the fraction in turn, the digit times the unit divided down
by ten once more. Segments are checked in the order they stand in, and the sum must stay below
two to the power 64 nanoseconds.
-/
import EnvSettings.Number.Digit
import EnvSettings.Text.Quoted

namespace EnvSettings.Time

open EnvSettings.Number EnvSettings.Text

/-- A span of time, never negative. -/
structure Duration where
  nanoseconds : Nat
  deriving Repr, DecidableEq

namespace Duration

-- =================================================================== units

/-- The unit's length in nanoseconds; the micro sign and the small Greek mu mean the same. -/
def unitScale? : List Char → Option Nat
  | ['n', 's'] => some 1
  | ['u', 's'] => some 1000
  | ['\u00b5', 's'] => some 1000
  | ['\u03bc', 's'] => some 1000
  | ['m', 's'] => some 1000000
  | ['s'] => some 1000000000
  | ['m'] => some 60000000000
  | ['h'] => some 3600000000000
  | _ => none

-- ================================================================== faults

/-- Why a text is no duration. -/
inductive Fault
  | negative
  | malformed
  | missingUnit
  | unknownUnit (unit : String)
  | outOfRange
  deriving Repr, DecidableEq

/-- Why a text is no duration, in words. -/
def Fault.message : Fault → String
  | .negative => "negative durations are not supported"
  | .malformed => "invalid duration"
  | .missingUnit => "missing unit in duration"
  | .unknownUnit unit => s!"unknown unit {quote unit} in duration"
  | .outOfRange => "duration out of range"

-- ================================================================ segments

/-- A segment cut into its parts. -/
structure Segment where
  whole : List Char
  fraction : List Char
  unit : List Char
  deriving Repr, DecidableEq

/-- The character cannot belong to a unit: it starts the next segment. -/
def startsSegment (c : Char) : Bool := c.isDigit || c = '.'

/-- Cuts the fraction off, with the point before it. -/
def spanFraction : List Char → List Char × List Char
  | '.' :: rest => spanDigits rest
  | cs => ([], cs)

/-- Cuts the first segment off a text. -/
def Segment.split (cs : List Char) : Segment × List Char :=
  let (whole, cs) := spanDigits cs
  let (fraction, cs) := spanFraction cs
  (⟨whole, fraction, cs.takeWhile (!startsSegment ·)⟩, cs.dropWhile (!startsSegment ·))

/-- What the digits of a fraction add: each is worth a tenth of the one before it, rounded down,
and the first a tenth of `scale`. -/
def fractionValue (scale : Nat) : List Char → Nat
  | [] => 0
  | c :: rest => valueOf 10 [c] * (scale / 10) + fractionValue (scale / 10) rest

/-- The unit of a segment that has one. -/
def Segment.scale? (segment : Segment) : Except Fault Nat :=
  match unitScale? segment.unit with
  | some scale => .ok scale
  | none =>
    if segment.unit = [] then .error .missingUnit
    else .error (.unknownUnit (String.ofList segment.unit))

/-- The nanoseconds of a segment of the given unit. -/
def Segment.nanoseconds (segment : Segment) (scale : Nat) : Nat :=
  valueOf 10 segment.whole * scale + fractionValue scale segment.fraction

/-- The sum that no part of a reading may reach. -/
def wideLimit : Nat := 1 <<< 128

/-- The value of a segment, if it has digits and a unit and stays in reach. -/
def Segment.value? (segment : Segment) : Except Fault Nat := do
  if segment.whole = [] ∧ segment.fraction = [] then throw .malformed
  let scale ← segment.scale?
  let value := segment.nanoseconds scale
  if value < wideLimit then return value else throw .outOfRange

/-- Whatever a text starts with, its first segment takes at least one character of it. -/
theorem Segment.split_length_lt {cs : List Char} (nonempty : cs ≠ []) :
    (Segment.split cs).2.length < cs.length := by
  have drop_le (p : Char → Bool) (l : List Char) : (l.dropWhile p).length ≤ l.length :=
    (List.dropWhile_suffix p).length_le
  have fraction_le (l : List Char) : (spanFraction l).2.length ≤ l.length := by
    unfold spanFraction
    split
    · exact Nat.le_succ_of_le (drop_le _ _)
    · exact Nat.le_refl _
  obtain ⟨c, rest, rfl⟩ := List.exists_cons_of_ne_nil nonempty
  have unit_le : (Segment.split (c :: rest)).2.length ≤
      (spanFraction (spanDigits (c :: rest)).2).2.length := drop_le _ _
  by_cases digit : c.isDigit
  · have whole_le : (spanDigits (c :: rest)).2.length ≤ rest.length := by
      simpa [spanDigits, digit] using drop_le Char.isDigit rest
    exact Nat.lt_succ_of_le (Nat.le_trans unit_le (Nat.le_trans (fraction_le _) whole_le))
  · have whole_eq : (spanDigits (c :: rest)).2 = c :: rest := by simp [spanDigits, digit]
    rw [whole_eq] at unit_le
    by_cases point : c = '.'
    · subst point
      exact Nat.lt_succ_of_le (Nat.le_trans unit_le (drop_le _ _))
    · have fraction_eq : spanFraction (c :: rest) = ([], c :: rest) := by
        unfold spanFraction
        split
        · simp_all
        · rfl
      have split_eq : (Segment.split (c :: rest)).2 = rest.dropWhile (!startsSegment ·) := by
        simp [Segment.split, whole_eq, fraction_eq, startsSegment, digit, point]
      rw [split_eq]
      exact Nat.lt_succ_of_le (drop_le _ _)

/-- Cuts a text into segments, each a number with its unit. -/
def segments (cs : List Char) : List Segment :=
  if cs = [] then []
  else (Segment.split cs).1 :: segments (Segment.split cs).2
termination_by cs.length
decreasing_by exact Segment.split_length_lt ‹_›

-- ================================================================= reading

/-- Adds the values of segments onto `total`, up to the first fault. -/
def sumSegments (total : Nat) : List Segment → Except Fault Nat
  | [] => .ok total
  | segment :: rest =>
    match segment.value? with
    | .error fault => .error fault
    | .ok value =>
      if total + value < wideLimit then sumSegments (total + value) rest
      else .error .outOfRange

/-- Reads a text without its plus sign. -/
def readUnsigned (cs : List Char) : Except Fault Duration :=
  if cs.head? = some '-' then .error .negative
  else if cs = ['0'] then .ok ⟨0⟩
  else if cs = [] then .error .malformed
  else
    match sumSegments 0 (segments cs) with
    | .error fault => .error fault
    | .ok total => if total < 1 <<< 64 then .ok ⟨total⟩ else .error .outOfRange

/-- Reads a duration, with or without one plus sign. -/
def read (cs : List Char) : Except Fault Duration :=
  match cs with
  | '+' :: rest => readUnsigned rest
  | cs => readUnsigned cs

-- ================================================================= writing

/-- A number of units and its remainder, as a decimal fraction without trailing zeros; the
remainder has `places` digits. -/
def fixedPoint (whole remainder places : Nat) : String :=
  let digits := Nat.toDigits 10 remainder
  let padded := List.replicate (places - digits.length) '0' ++ digits
  let shown := (padded.reverse.dropWhile (· == '0')).reverse
  if shown = [] then toString whole else s!"{whole}.{String.ofList shown}"

/-- The duration in the largest of the units s, ms, µs and ns that it fills. -/
def text (d : Duration) : String :=
  let n := d.nanoseconds
  if 1000000000 ≤ n then fixedPoint (n / 1000000000) (n % 1000000000) 9 ++ "s"
  else if 1000000 ≤ n then fixedPoint (n / 1000000) (n % 1000000) 6 ++ "ms"
  else if 1000 ≤ n then fixedPoint (n / 1000) (n % 1000) 3 ++ "µs"
  else s!"{n}ns"

end Duration

end EnvSettings.Time
