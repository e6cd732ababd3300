/-
Dates, and the days before them. A date is one if its month is one of twelve and its day is one of
the month (`IsDate`), which is what is checked of dates as they are read (`validDate_iff`). The days
before a date are counted (`dayNumber`): those of all years before its year, those of all months
before its month, and those of its month before it.
-/
import EnvSettings.Time.Timestamp
import Mathlib.Algebra.BigOperators.Group.List.Basic
import Mathlib.Tactic.IntervalCases

namespace EnvSettings.Time

-- =================================================================== dates

/-- Every fourth year is a leap year, but of the centuries only every fourth. -/
def IsLeap (year : Nat) : Prop := 4 ∣ year ∧ (100 ∣ year → 400 ∣ year)

instance (year : Nat) : Decidable (IsLeap year) := inferInstanceAs (Decidable (_ ∧ _))

/-- How many days the months of a year have. -/
def monthLengths (year : Nat) : List Nat :=
  [31, if IsLeap year then 29 else 28, 31, 30, 31, 30, 31, 31, 30, 31, 30, 31]

/-- There is such a day. Years are counted from 0, months and days from 1. -/
structure IsDate (year month day : Nat) : Prop where
  month_pos : 1 ≤ month
  day_pos : 1 ≤ day
  day_le : ∃ length ∈ (monthLengths year)[month - 1]?, day ≤ length

/-- The days before a date, from the first day of year 0. -/
def dayNumber (year month day : Nat) : Nat :=
  ((List.range year).map fun y => (monthLengths y).sum).sum
    + ((monthLengths year).take (month - 1)).sum + (day - 1)

-- ================================================================= lengths

/-- A year counts as a leap year exactly if it is one. -/
theorem isLeapYear_iff {year : Nat} : isLeapYear year = true ↔ IsLeap year := by
  unfold isLeapYear IsLeap
  simp only [Bool.and_eq_true, Bool.or_eq_true, decide_eq_true_eq, ne_eq, decide_not,
    Bool.not_eq_eq_eq_not, Bool.not_true, decide_eq_false_iff_not]
  omega

/-- A year has a day more for each of the rules that make it longer, and one less for the rule that
makes it shorter. -/
theorem sum_monthLengths (year : Nat) :
    (monthLengths year).sum + (if 100 ∣ year then 1 else 0)
      = 365 + (if 4 ∣ year then 1 else 0) + if 400 ∣ year then 1 else 0 := by
  have hfour : 100 ∣ year → 4 ∣ year := Nat.dvd_trans (by decide)
  have hcentury : 400 ∣ year → 100 ∣ year := Nat.dvd_trans (by decide)
  have hlength : (monthLengths year).sum = 365 + if IsLeap year then 1 else 0 := by
    unfold monthLengths
    split
    · rfl
    · rfl
  rw [hlength]
  unfold IsLeap
  by_cases h400 : 400 ∣ year
  · simp [h400, hcentury h400, hfour (hcentury h400)]
  · by_cases h100 : 100 ∣ year
    · simp [h400, h100, hfour h100]
    · simp [h400, h100]

theorem le_of_mem_monthLengths {year length : Nat} (h : length ∈ monthLengths year) :
    length ≤ 31 := by
  revert length
  unfold monthLengths
  split
  · decide
  · decide

/-- The months are the ones of the list. -/
theorem getElem?_monthLengths {year month : Nat} (hpos : 1 ≤ month) (hle : month ≤ 12) :
    (monthLengths year)[month - 1]? = some (daysInMonth year month) := by
  have hfebruary : (if isLeapYear year = true then 29 else 28)
      = if IsLeap year then 29 else 28 := by
    simp only [isLeapYear_iff]
  unfold daysInMonth monthLengths
  rw [hfebruary]
  interval_cases month <;> rfl

section

variable {year month day : Nat}

theorem IsDate.month_le (hdate : IsDate year month day) : month ≤ 12 := by
  obtain ⟨hpos, -, length, hlength, -⟩ := hdate
  have hlt := (List.getElem?_eq_some_iff.mp hlength).1
  have htwelve : (monthLengths year).length = 12 := rfl
  omega

theorem IsDate.day_le_longest (hdate : IsDate year month day) : day ≤ 31 := by
  obtain ⟨-, -, length, hlength, hday⟩ := hdate
  exact Nat.le_trans hday (le_of_mem_monthLengths (List.mem_of_getElem? hlength))

/-- Numbers count as a date exactly if they are one. -/
theorem validDate_iff : validDate year month day = true ↔ IsDate year month day := by
  unfold validDate
  simp only [Bool.and_eq_true, decide_eq_true_eq]
  constructor
  · intro ⟨⟨⟨hpos, hle⟩, hday⟩, hlength⟩
    exact ⟨hpos, hday, _, getElem?_monthLengths hpos hle, hlength⟩
  · intro hdate
    have hle := hdate.month_le
    obtain ⟨hpos, hday, length, hlength, hdayLe⟩ := hdate
    have heq := Option.some.inj ((getElem?_monthLengths hpos hle).symm.trans hlength)
    rw [heq]
    exact ⟨⟨⟨hpos, hle⟩, hday⟩, hdayLe⟩

end

end EnvSettings.Time
