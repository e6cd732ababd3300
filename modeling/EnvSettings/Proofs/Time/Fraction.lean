/-
Fractions of a unit, and how many nanoseconds of them are lost.

A segment denotes a rational number of nanoseconds (`Segment.exact`) and should count for as many
as are whole in it. The reader takes the unit down by ten for every digit and rounds it down each
time. As long as the unit is a multiple of ten nothing is lost by this; then the digits left over
are worth a fraction of the little that remains of the unit.

# Where the rounding starts

A unit is a factor times a power of ten. For as many digits as the power has places the reader
and the exact value take the same step, so that what they differ by is what they differ by in the
remaining digits of the bare factor (`exactFraction_add_fractionValue`, by induction on the
places). The factor is one below the minute, and nothing remains of it: what is left over is less
than a nanosecond. It is six for the minute, of which the reader takes nothing, and thirty-six for
the hour, of which it takes three for one more digit.
-/
import EnvSettings.Proofs.Number.Digits
import EnvSettings.Proofs.Time.Duration
import Mathlib.Algebra.Order.BigOperators.Group.List
import Mathlib.Algebra.Order.Floor.Semifield
import Mathlib.Data.Rat.Floor

namespace EnvSettings.Time.Duration

open EnvSettings.Number

-- =========================================================== exact values

/-- What a segment denotes, in nanoseconds and with every digit of its fraction. -/
def Segment.exact (segment : Segment) : ℚ :=
  (valueOf 10 segment.whole
    + (valueOf 10 segment.fraction : ℚ) / 10 ^ segment.fraction.length) * segment.scale

/-- What a fraction of a unit comes to when it is rounded down only once. -/
def exactFraction (scale : Nat) (digits : List Char) : Nat :=
  valueOf 10 digits * scale / 10 ^ digits.length

theorem Segment.floor_exact (segment : Segment) :
    ⌊segment.exact⌋₊ = valueOf 10 segment.whole * segment.scale
      + exactFraction segment.scale segment.fraction := by
  have hsplit : segment.exact
      = ((valueOf 10 segment.fraction * segment.scale : Nat) : ℚ)
          / ((10 ^ segment.fraction.length : Nat) : ℚ)
        + ((valueOf 10 segment.whole * segment.scale : Nat) : ℚ) := by
    unfold Segment.exact
    push_cast
    ring
  have hnonneg : (0 : ℚ) ≤ ((valueOf 10 segment.fraction * segment.scale : Nat) : ℚ)
      / ((10 ^ segment.fraction.length : Nat) : ℚ) := by positivity
  rw [hsplit, Nat.floor_add_natCast hnonneg, Nat.floor_div_eq_div, Nat.add_comm]
  rfl

-- =================================================== a multiple of ten

theorem exactFraction_ten_mul (scale : Nat) (c : Char) (digits : List Char) :
    exactFraction (10 * scale) (c :: digits)
      = valueOf 10 [c] * scale + exactFraction scale digits := by
  have hpos : 0 < 10 ^ digits.length := Nat.pow_pos (by decide)
  have htens : (valueOf 10 [c] * 10 ^ digits.length + valueOf 10 digits) * (10 * scale)
      = (valueOf 10 digits * scale + 10 ^ digits.length * (valueOf 10 [c] * scale)) * 10 := by
    ring
  unfold exactFraction
  rw [valueOf_cons, List.length_cons, pow_succ, htens, Nat.mul_div_mul_right _ _ (by decide),
    Nat.add_mul_div_left _ _ hpos, Nat.add_comm]

theorem fractionValue_ten_mul (scale : Nat) (c : Char) (digits : List Char) :
    fractionValue (10 * scale) (c :: digits)
      = valueOf 10 [c] * scale + fractionValue scale digits := by
  rw [fractionValue, Nat.mul_div_cancel_left _ (by decide)]

/-- The places of a unit are read exactly: what remains to be compared is the digits behind them,
as a fraction of the factor. -/
theorem exactFraction_add_fractionValue (factor places : Nat) (digits : List Char) :
    exactFraction (factor * 10 ^ places) digits + fractionValue factor (digits.drop places)
      = fractionValue (factor * 10 ^ places) digits
        + exactFraction factor (digits.drop places) := by
  induction places generalizing digits with
  | zero => simp [Nat.add_comm]
  | succ places ih =>
      cases digits with
      | nil => simp [exactFraction, fractionValue, valueOf]
      | cons c digits =>
          have hscale : factor * 10 ^ (places + 1) = 10 * (factor * 10 ^ places) := by ring
          have hrest := ih digits
          rw [hscale, exactFraction_ten_mul, fractionValue_ten_mul, List.drop_succ_cons]
          omega

-- ============================================== digits behind the places

/-- A fraction is less than one of its unit. -/
theorem exactFraction_lt {scale : Nat} (hscale : 0 < scale) (digits : List Char) :
    exactFraction scale digits < scale := by
  have hlt : valueOf 10 digits < 10 ^ digits.length := valueOf_lt (by decide) digits
  exact Nat.div_lt_of_lt_mul (Nat.mul_lt_mul_of_pos_right hlt hscale)

/-- Of a unit below ten the reader takes nothing. -/
theorem fractionValue_of_lt_ten {scale : Nat} (hscale : scale < 10) (digits : List Char) :
    fractionValue scale digits = 0 := by
  induction digits generalizing scale with
  | nil => rfl
  | cons c digits ih =>
      rw [fractionValue, Nat.div_eq_of_lt hscale, Nat.mul_zero, ih (by decide)]

/-- Of thirty-six it takes three for the next digit. -/
theorem fractionValue_thirtySix (digits : List Char) :
    fractionValue 36 digits = 3 * valueOf 10 (digits.take 1) := by
  cases digits with
  | nil => rfl
  | cons c digits =>
      rw [fractionValue, fractionValue_of_lt_ten (by decide), List.take_succ_cons, List.take_zero]
      omega

/-- Of thirty-six the digits are worth less than nine more than the reader takes, and not less. -/
theorem exactFraction_thirtySix (digits : List Char) :
    3 * valueOf 10 (digits.take 1) ≤ exactFraction 36 digits
      ∧ exactFraction 36 digits ≤ 3 * valueOf 10 (digits.take 1) + 8 := by
  cases digits with
  | nil => decide
  | cons c digits =>
      have hpos : 0 < 10 ^ (digits.length + 1) := Nat.pow_pos (by decide)
      have hfirst : valueOf 10 [c] < 10 := valueOf_singleton_lt (by decide) c
      have hrest : valueOf 10 digits < 10 ^ digits.length := valueOf_lt (by decide) digits
      have hpow : 10 ^ (digits.length + 1) = 10 * 10 ^ digits.length := pow_succ' _ _
      unfold exactFraction
      rw [valueOf_cons, List.length_cons, List.take_succ_cons, List.take_zero]
      generalize valueOf 10 [c] = first at *
      constructor
      · rw [Nat.le_div_iff_mul_le hpos, hpow]
        nlinarith
      · rw [← Nat.lt_succ_iff, Nat.div_lt_iff_lt_mul hpos, hpow]
        nlinarith

-- ================================================================= losses

/-- The nanoseconds by which a segment falls short of what it denotes. Of minutes the digits
behind the tenth are lost, and of hours those behind the eleventh, but for three nanoseconds for
each one that the first of these counts. -/
def Segment.lost (segment : Segment) : Nat :=
  if segment.unit = ['m'] then exactFraction 6 (segment.fraction.drop 10)
  else if segment.unit = ['h'] then
    exactFraction 36 (segment.fraction.drop 11)
      - 3 * valueOf 10 ((segment.fraction.drop 11).take 1)
  else 0

/-- The minute is six times a power of ten and the hour thirty-six times one; all other units are
powers of ten. -/
theorem Segment.scale_cases {segment : Segment} (known : segment.unit ∈ units.map Prod.fst) :
    (segment.unit = ['m'] ∧ segment.scale = 6 * 10 ^ 10)
      ∨ (segment.unit = ['h'] ∧ segment.scale = 36 * 10 ^ 11)
      ∨ (segment.unit ≠ ['m'] ∧ segment.unit ≠ ['h']
        ∧ ∃ places, segment.scale = 1 * 10 ^ places) := by
  have hunits : ∀ unit ∈ units.map Prod.fst,
      (unit = ['m'] ∧ (units.lookup unit).getD 0 = 6 * 10 ^ 10)
        ∨ (unit = ['h'] ∧ (units.lookup unit).getD 0 = 36 * 10 ^ 11)
        ∨ (unit ≠ ['m'] ∧ unit ≠ ['h']
          ∧ ∃ places < 10, (units.lookup unit).getD 0 = 1 * 10 ^ places) := by decide
  rcases hunits _ known with hminute | hhour | ⟨hm, hh, places, -, hplaces⟩
  · exact Or.inl hminute
  · exact Or.inr (Or.inl hhour)
  · exact Or.inr (Or.inr ⟨hm, hh, places, hplaces⟩)

/-- A segment is worth what it denotes, rounded down, but for what is lost. -/
theorem Segment.floor_exact_eq {segment : Segment} (known : segment.unit ∈ units.map Prod.fst) :
    ⌊segment.exact⌋₊ = segment.worth + segment.lost := by
  rw [Segment.floor_exact, ← Segment.nanoseconds_scale]
  unfold Segment.nanoseconds
  rcases Segment.scale_cases known with ⟨hunit, hscale⟩ | ⟨hunit, hscale⟩ | ⟨hm, hh, places, hscale⟩
  · have hlost : segment.lost = exactFraction 6 (segment.fraction.drop 10) := if_pos hunit
    have hsum := exactFraction_add_fractionValue 6 10 segment.fraction
    have hnothing : fractionValue 6 (segment.fraction.drop 10) = 0 :=
      fractionValue_of_lt_ten (by decide) _
    rw [hscale, hlost]
    omega
  · have hlost : segment.lost = exactFraction 36 (segment.fraction.drop 11)
        - 3 * valueOf 10 ((segment.fraction.drop 11).take 1) := by
      unfold Segment.lost
      rw [hunit, if_neg (by decide), if_pos rfl]
    have hsum := exactFraction_add_fractionValue 36 11 segment.fraction
    have hthree := fractionValue_thirtySix (segment.fraction.drop 11)
    have hle := (exactFraction_thirtySix (segment.fraction.drop 11)).1
    rw [hscale, hlost]
    omega
  · have hlost : segment.lost = 0 := by
      unfold Segment.lost
      rw [if_neg hm, if_neg hh]
    have hsum := exactFraction_add_fractionValue 1 places segment.fraction
    have hnothing : fractionValue 1 (segment.fraction.drop places) = 0 :=
      fractionValue_of_lt_ten (by decide) _
    have hless : exactFraction 1 (segment.fraction.drop places) < 1 :=
      exactFraction_lt (by decide) _
    rw [hscale, hlost]
    omega

/-- No segment loses more than 8 nanoseconds. -/
theorem Segment.lost_le (segment : Segment) : segment.lost ≤ 8 := by
  unfold Segment.lost
  split
  · have hlt : exactFraction 6 (segment.fraction.drop 10) < 6 := exactFraction_lt (by decide) _
    omega
  · split
    · have hle := (exactFraction_thirtySix (segment.fraction.drop 11)).2
      omega
    · omega

/-- Ten digits behind the point are too few to lose anything. -/
theorem Segment.lost_eq_zero_of_length_le {segment : Segment}
    (short : segment.fraction.length ≤ 10) : segment.lost = 0 := by
  have hten : segment.fraction.drop 10 = [] := List.drop_of_length_le short
  have heleven : segment.fraction.drop 11 = [] := List.drop_of_length_le (by omega)
  unfold Segment.lost
  rw [hten, heleven]
  split
  · rfl
  · split <;> rfl

/-- What segments are worth together is at least what one of them is worth. -/
theorem Segment.worth_le_total {segment : Segment} {spelling : List Segment}
    (hsegment : segment ∈ spelling) : segment.worth ≤ total spelling :=
  List.le_sum_of_mem (List.mem_map_of_mem hsegment)

/-- A segment of what is in range counts for its worth. -/
theorem Segment.value?_eq_worth {spelling : List Segment} (hrange : total spelling < 2 ^ 64)
    {segment : Segment} (hsegment : segment ∈ spelling) (fine : segment.WellFormed) :
    segment.value? = .ok segment.worth := by
  have hle := Segment.worth_le_total hsegment
  have hwide : wideLimit = 2 ^ 128 := rfl
  rw [Segment.value?_of_wellFormed fine, if_pos (by omega)]

end EnvSettings.Time.Duration

namespace EnvSettings

open EnvSettings.Time EnvSettings.Time.Duration

/-- The nanoseconds that a text is read as, beside those that it denotes. A text that is read is a
zero alone, or its segments spell it and the duration is the sum of what they count for. Each
counts for what it denotes, rounded down to nanoseconds, but for what is lost of it, which is eight
nanoseconds at most. Nothing is lost of a segment in another unit than minutes and hours, nor of
one with no more than ten digits behind its point. -/
theorem readDuration_fraction_loss (raw : String) (d : Duration) (hd : readDuration raw = .ok d) :
    (withoutPlus raw.toList = ['0'] ∧ d = ⟨0⟩)
      ∨ (segments (withoutPlus raw.toList) ≠ []
        ∧ Spells (segments (withoutPlus raw.toList)) (withoutPlus raw.toList)
        ∧ d = ⟨((segments (withoutPlus raw.toList)).map Segment.worth).sum⟩
        ∧ ∀ segment ∈ segments (withoutPlus raw.toList),
          segment.value? = .ok segment.worth
            ∧ ⌊segment.exact⌋₊ = segment.worth + segment.lost
            ∧ segment.lost ≤ 8
            ∧ (segment.unit ≠ ['m'] → segment.unit ≠ ['h'] → segment.lost = 0)
            ∧ (segment.fraction.length ≤ 10 → segment.lost = 0)) := by
  rw [readDuration_eq_ok_iff, read_eq_ok_iff] at hd
  rcases hd with hzero | ⟨spelling, hne, hspells, hrange, rfl⟩
  · exact Or.inl hzero
  · rw [segments_of_spells hspells]
    refine Or.inr ⟨hne, hspells, rfl, fun segment hsegment => ?_⟩
    have fine := hspells.wellFormed segment hsegment
    refine ⟨Segment.value?_eq_worth hrange hsegment fine, Segment.floor_exact_eq fine.unit,
      segment.lost_le, fun hm hh => ?_, Segment.lost_eq_zero_of_length_le⟩
    unfold Segment.lost
    rw [if_neg hm, if_neg hh]

/-- Of five in the twelfth place behind the point of an hour three nanoseconds are lost, and of the
seconds nothing. -/
theorem readDuration_fraction_loss_hour :
    let spelling : List Segment := [⟨['1'], "000000000005".toList, ['h']⟩, ⟨['2'], ['5'], ['s']⟩]
    Spells spelling "1.000000000005h2.5s".toList
      ∧ readDuration "1.000000000005h2.5s" = .ok ⟨3602500000015⟩
      ∧ spelling.map Segment.lost = [3, 0]
      ∧ ∀ segment ∈ spelling, ⌊segment.exact⌋₊ = segment.worth + segment.lost := by
  intro spelling
  have hspells : Spells spelling "1.000000000005h2.5s".toList := by
    have hhours : Segment.WellFormed ⟨['1'], "000000000005".toList, ['h']⟩ :=
      Segment.wellFormed_of_all rfl rfl (by decide) (by decide)
    have hseconds : Segment.WellFormed ⟨['2'], ['5'], ['s']⟩ :=
      Segment.wellFormed_of_all rfl rfl (by decide) (by decide)
    exact .cons hhours .pointed (.cons hseconds .pointed .nil)
  have htotal : total spelling = 3602500000015 := by decide
  have hread : readDuration "1.000000000005h2.5s" = .ok ⟨3602500000015⟩ := by
    rw [readDuration_eq_ok_iff, read_eq_ok_iff]
    refine Or.inr ⟨spelling, List.cons_ne_nil _ _, hspells, ?_, ?_⟩
    · rw [htotal]
      decide
    · rw [htotal]
  have hcut : segments (withoutPlus "1.000000000005h2.5s".toList) = spelling :=
    segments_of_spells hspells
  refine ⟨hspells, hread, by decide, ?_⟩
  rcases readDuration_fraction_loss _ _ hread with ⟨hzero, -⟩ | ⟨-, -, -, heach⟩
  · exact absurd hzero (by decide)
  · rw [hcut] at heach
    exact fun segment hsegment => (heach segment hsegment).2.1

/-- A fraction of a minute that denotes three nanoseconds counts for none: what a segment counts
for is not what it denotes, rounded down. -/
theorem minute_fraction_not_exact :
    let segment : Segment := ⟨['0'], "00000000005".toList, ['m']⟩
    Spells [segment] "0.00000000005m".toList ∧ ⌊segment.exact⌋₊ = 3 ∧ segment.value? = .ok 0
      ∧ readDuration "0.00000000005m" = .ok ⟨0⟩ := by
  intro segment
  have fine : segment.WellFormed := Segment.wellFormed_of_all rfl rfl (by decide) (by decide)
  have hspells : Spells [segment] "0.00000000005m".toList := .cons fine .pointed .nil
  have hworth : segment.worth = 0 := by decide
  have hlost : segment.lost = 3 := by decide
  have htotal : total [segment] = 0 := by decide
  have hsmall : total [segment] < 2 ^ 64 := by
    rw [htotal]
    decide
  refine ⟨hspells, ?_, ?_, ?_⟩
  · rw [Segment.floor_exact_eq fine.unit, hworth, hlost]
  · rw [Segment.value?_eq_worth hsmall List.mem_cons_self fine, hworth]
  · rw [readDuration_eq_ok_iff, read_eq_ok_iff]
    refine Or.inr ⟨[segment], List.cons_ne_nil _ _, hspells, hsmall, ?_⟩
    rw [htotal]

end EnvSettings
