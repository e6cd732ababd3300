/-
Local times as they are written, and the instants that they denote. A local time (`LocalTime`) has a
date, a time of day with any fraction of a second, and a zone. The instant it denotes
(`LocalTime.instant`) is a rational number of seconds: the days counted since the start of 1970, the
time of day and the whole fraction, less what the zone is ahead.

# What is expected of a library for dates

It reads a local time in its written form as what is written, with a fraction of a second cut off
behind nanoseconds (`Calendar.ReadsLocalTimes`), and carries a date and a time of day over into UTC
as the same instant (`Calendar.KeepsInstants`). What either of them says of a text and an instant is
put together here only as far as no text is looked at: nanoseconds decide between the instants of
one second, so an instant in seconds and nanoseconds is known from what it comes to
(`Timestamp.eq_ofInstant`), and the fraction that is cut off makes no difference
(`LocalTime.ofInstant_moment`).

An offset has whole seconds. So the fraction of an instant is the fraction written, whatever the
zone and whatever the sign of the seconds, and an offset that leads into another day, month or year
needs no case of its own.
-/
import EnvSettings.Proofs.Time.Calendar
import Mathlib.Algebra.Order.Floor.Semifield
import Mathlib.Data.Rat.Floor

namespace EnvSettings.Time

-- ================================================================ writing

/-- A number in this many digits. -/
def padded : (places n : Nat) → List Char
  | 0, _ => []
  | places + 1, n => padded places (n / 10) ++ [(n % 10).digitChar]

/-- How far the local time is from UTC: not at all, or by hours and minutes. -/
inductive Zone
  | utc
  | east (hours : Fin 24) (minutes : Fin 60)
  | west (hours : Fin 24) (minutes : Fin 60)

namespace Zone

/-- By how many seconds the local time is ahead. -/
def offset : Zone → Int
  | utc => 0
  | east hours minutes => 3600 * (hours : Int) + 60 * (minutes : Int)
  | west hours minutes => -(3600 * (hours : Int) + 60 * (minutes : Int))

/-- UTC is written as a letter. -/
def chars (letter : Char) : Zone → List Char
  | utc => [letter]
  | east hours minutes => '+' :: (padded 2 hours ++ ':' :: padded 2 minutes)
  | west hours minutes => '-' :: (padded 2 hours ++ ':' :: padded 2 minutes)

end Zone

/-- What digits behind the point of a number come to: each counts for a tenth of what it would in
the place before. -/
def fractionOf : List (Fin 10) → ℚ
  | [] => 0
  | d :: digits => ((d : ℕ) + fractionOf digits) / 10

/-- The digits as characters. -/
def digitChars (digits : List (Fin 10)) : List Char := digits.map fun d => d.val.digitChar

/-- A fraction of a second without digits is left out with its point. -/
def fractionChars : List (Fin 10) → List Char
  | [] => []
  | digits => '.' :: digitChars digits

/-- A date, a time of day to any fraction of a second, and the zone in which they are meant. -/
structure LocalTime where
  year : Nat
  month : Nat
  day : Nat
  hour : Fin 24
  minute : Fin 60
  second : Fin 60
  fraction : List (Fin 10)
  zone : Zone
  year_lt : year < 10000
  date : IsDate year month day

namespace LocalTime

/-- The date in its written form. -/
def dateChars (t : LocalTime) : List Char :=
  padded 4 t.year ++ '-' :: (padded 2 t.month ++ '-' :: padded 2 t.day)

/-- The time of day in its written form. -/
def timeChars (t : LocalTime) : List Char :=
  padded 2 t.hour ++ ':' :: (padded 2 t.minute ++ ':' :: (padded 2 t.second
    ++ fractionChars t.fraction))

/-- The written form, with a character between date and time of day and a letter for UTC. -/
def text (t : LocalTime) (separator letter : Char) : String :=
  String.ofList (t.dateChars ++ separator :: (t.timeChars ++ t.zone.chars letter))

/-- The seconds from the start of 1970 in UTC. -/
def instant (t : LocalTime) : ℚ :=
  ((dayNumber t.year t.month t.day : ℚ) - (dayNumber 1970 1 1 : ℚ)) * 86400
    + 3600 * (t.hour : ℕ) + 60 * (t.minute : ℕ) + (t.second : ℕ) + fractionOf t.fraction
    - t.zone.offset

end LocalTime

-- ================================================================= digits

theorem isDigit_digitChar {n : Nat} (hn : n < 10) : n.digitChar.isDigit = true := by
  rw [Nat.isDigit_digitChar, decide_eq_true hn]

theorem length_padded (places n : Nat) : (padded places n).length = places := by
  induction places generalizing n with
  | zero => rfl
  | succ places ih => rw [padded, List.length_append, ih, List.length_singleton]

theorem isDigit_of_mem_padded {places n : Nat} {c : Char} (hc : c ∈ padded places n) :
    c.isDigit = true := by
  induction places generalizing n with
  | zero => exact absurd hc List.not_mem_nil
  | succ places ih =>
      rw [padded, List.mem_append, List.mem_singleton] at hc
      rcases hc with hc | rfl
      · exact ih hc
      · exact isDigit_digitChar (Nat.mod_lt n (by decide))

-- =============================================================== fractions

theorem fractionOf_nonneg (digits : List (Fin 10)) : 0 ≤ fractionOf digits := by
  induction digits with
  | nil => exact le_rfl
  | cons d digits ih =>
      rw [fractionOf]
      positivity

/-- A fraction of a second is less than one. -/
theorem fractionOf_lt_one (digits : List (Fin 10)) : fractionOf digits < 1 := by
  induction digits with
  | nil => exact one_pos
  | cons d digits ih =>
      have hd : ((d : ℕ) : ℚ) ≤ 9 := by exact_mod_cast Nat.le_of_lt_succ d.isLt
      rw [fractionOf]
      linarith

-- ================================================================ instants

/-- The whole nanoseconds of an instant that is given in seconds. -/
def Timestamp.ofInstant (instant : ℚ) : Timestamp :=
  ⟨⌊instant⌋, ⌊Int.fract instant * 10 ^ 9⌋₊⟩

/-- What an instant comes to in seconds. -/
def Timestamp.instant (t : Timestamp) : ℚ := t.seconds + t.nanoseconds / 10 ^ 9

/-- The seconds from the start of 1970 in UTC. -/
def OffsetDateTime.instant (m : OffsetDateTime) : ℚ :=
  ((dayNumber m.date.year m.date.month m.date.day : ℚ) - (dayNumber 1970 1 1 : ℚ)) * 86400
    + 3600 * (m.time.hour : ℕ) + 60 * (m.time.minute : ℕ) + (m.time.second : ℕ)
    + m.time.nanosecond / 10 ^ 9 - m.offset

/-- An offset is less than a day. -/
theorem Zone.natAbs_offset_lt (zone : Zone) : zone.offset.natAbs < 86400 := by
  cases zone with
  | utc => decide
  | east hours minutes =>
      have hhours := hours.isLt
      have hminutes := minutes.isLt
      simp only [Zone.offset]
      omega
  | west hours minutes =>
      have hhours := hours.isLt
      have hminutes := minutes.isLt
      simp only [Zone.offset]
      omega

/-- What is written, with whole nanoseconds. -/
def LocalTime.moment (t : LocalTime) : OffsetDateTime where
  date := ⟨t.year, t.month, t.day, validDate_iff.mpr t.date⟩
  time := ⟨t.hour, t.minute, t.second, ⌊fractionOf t.fraction * 10 ^ 9⌋₊⟩
  offset := t.zone.offset
  offset_lt := t.zone.natAbs_offset_lt

/-- Local times in their written form are read as what is written. -/
def Calendar.ReadsLocalTimes (calendar : Calendar) : Prop :=
  ∀ t : LocalTime, calendar.read (t.text 'T' 'Z') = .ok t.moment

/-- A date and a time of day are the same instant in UTC, and nanoseconds that make no whole second
make none there. -/
def Calendar.KeepsInstants (calendar : Calendar) : Prop :=
  ∀ m : OffsetDateTime, (calendar.toUtc m).instant = m.instant
    ∧ (m.time.nanosecond < 10 ^ 9 → (calendar.toUtc m).nanoseconds < 10 ^ 9)

theorem Timestamp.ofInstant_intCast_add (seconds : Int) {fraction : ℚ} (hnonneg : 0 ≤ fraction)
    (hlt : fraction < 1) :
    ofInstant (seconds + fraction) = ⟨seconds, ⌊fraction * 10 ^ 9⌋₊⟩ := by
  unfold ofInstant
  rw [Int.floor_intCast_add, Int.fract_intCast_add, Int.floor_eq_zero_iff.mpr ⟨hnonneg, hlt⟩,
    Int.add_zero, Int.fract_eq_self.mpr ⟨hnonneg, hlt⟩]

/-- Nanoseconds that make no whole second are a fraction of one, from which they come back. -/
theorem nanoseconds_fraction {nanoseconds : Nat} (hlt : nanoseconds < 10 ^ 9) :
    0 ≤ (nanoseconds / 10 ^ 9 : ℚ) ∧ (nanoseconds / 10 ^ 9 : ℚ) < 1
      ∧ ⌊(nanoseconds / 10 ^ 9 : ℚ) * 10 ^ 9⌋₊ = nanoseconds := by
  have hrational : (nanoseconds : ℚ) < 10 ^ 9 := by exact_mod_cast hlt
  refine ⟨by positivity, (div_lt_one (by positivity)).mpr hrational, ?_⟩
  rw [div_mul_cancel₀ _ (by positivity), Nat.floor_natCast]

/-- Where the nanoseconds make no whole second, only one instant in seconds and nanoseconds comes to
the same. -/
theorem Timestamp.eq_ofInstant {t : Timestamp} (hlt : t.nanoseconds < 10 ^ 9) :
    t = ofInstant t.instant := by
  obtain ⟨hnonneg, hless, hback⟩ := nanoseconds_fraction hlt
  unfold Timestamp.instant
  rw [ofInstant_intCast_add _ hnonneg hless, hback]

namespace LocalTime

variable (t : LocalTime)

/-- The whole seconds from the start of 1970 in UTC. -/
def seconds : Int :=
  ((dayNumber t.year t.month t.day : Int) - (dayNumber 1970 1 1 : Int)) * 86400
    + (3600 * t.hour + 60 * t.minute + t.second : Nat) - t.zone.offset

/-- The instant of a local time: whole seconds and the fraction. -/
theorem instant_eq : t.instant = t.seconds + fractionOf t.fraction := by
  unfold instant seconds
  push_cast
  ring

/-- The nanoseconds read are whole ones of the fraction, and so make no second. -/
theorem nanosecond_moment_lt : t.moment.time.nanosecond < 10 ^ 9 := by
  show ⌊fractionOf t.fraction * 10 ^ 9⌋₊ < 10 ^ 9
  have hlt := fractionOf_lt_one t.fraction
  have hnonneg := fractionOf_nonneg t.fraction
  rw [Nat.floor_lt (by positivity)]
  push_cast
  linarith

theorem instant_moment :
    t.moment.instant = t.seconds + (t.moment.time.nanosecond / 10 ^ 9 : ℚ) := by
  unfold OffsetDateTime.instant seconds moment
  push_cast
  ring

/-- The seconds and nanoseconds of the instant are those written. -/
theorem ofInstant_instant :
    Timestamp.ofInstant t.instant = ⟨t.seconds, ⌊fractionOf t.fraction * 10 ^ 9⌋₊⟩ := by
  rw [instant_eq,
    Timestamp.ofInstant_intCast_add _ (fractionOf_nonneg _) (fractionOf_lt_one _)]

/-- What is cut off behind nanoseconds does not count. -/
theorem ofInstant_moment : Timestamp.ofInstant t.moment.instant = .ofInstant t.instant := by
  obtain ⟨hnonneg, hlt, hback⟩ := nanoseconds_fraction t.nanosecond_moment_lt
  rw [ofInstant_instant, instant_moment, Timestamp.ofInstant_intCast_add _ hnonneg hlt, hback]
  rfl

end LocalTime

end EnvSettings.Time
