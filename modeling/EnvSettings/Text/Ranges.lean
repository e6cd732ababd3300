/-
Sets of characters given by ranges of code points. A property of the Unicode standard is a
list of such ranges in ascending order; membership is a search through the list, so that a
statement about a whole property is a statement about a finite list.
-/

namespace EnvSettings.Text

-- ============================================================ plain ranges

/-- The character's code point lies in one of the ranges, both ends included. -/
def inRanges (ranges : List (Nat × Nat)) (c : Char) : Bool :=
  ranges.any fun r => decide (r.1 ≤ c.toNat) && decide (c.toNat ≤ r.2)

-- ========================================================== strided ranges

/-- The code points `first`, `first + step`, ... up to `last`. Letter case alternates through
large parts of the standard, which makes every second code point a member. -/
structure Stride where
  first : Nat
  last : Nat
  step : Nat
  deriving Repr, DecidableEq

/-- Whether a code point is one of the stride's. -/
def Stride.contains (s : Stride) (n : Nat) : Bool :=
  decide (s.first ≤ n) && decide (n ≤ s.last) && decide ((n - s.first) % s.step = 0)

/-- The character's code point lies in one of the strides. -/
def inStrides (strides : List Stride) (c : Char) : Bool :=
  strides.any (·.contains c.toNat)

end EnvSettings.Text
