/-
The calendar of RFC 3339 is one that local times and instants can be left to.

# How the reading goes

A written local time is put together from pieces, and the reader takes them off again in the same
order. Each piece has one lemma: whatever follows, the reader's part gives what was written and
leaves what follows (`readTwo_padded` up to `readDateTime_chars`). Only a fraction needs to know
what follows, and no zone starts with a digit or a point (`head?_zone_chars`).

# How the days are counted

The formula for the days before a year takes every fourth year for a leap year, takes all centuries
out again and every fourth century in again. From one year to the next each of its three quotients
grows by one exactly if the year is a multiple (`roundedUp_succ`), and the length of the year grows
and shrinks by the same rules (`sum_monthLengths`). So an induction on the years shows that the
formula counts their days (`daysBeforeYear_eq`).
-/
import EnvSettings.Proofs.Number.Digits
import EnvSettings.Proofs.Time.LocalTime
import EnvSettings.Sample.Rfc3339

namespace EnvSettings.Sample.Rfc3339

open EnvSettings.Number EnvSettings.Time Timestamp

-- ================================================================= digits

theorem isDigit_ten_digitChar {n : Nat} (hn : n < 10) : IsDigit 10 n.digitChar n :=
  (by decide : ∀ n < 10, IsDigit 10 n.digitChar n) n hn

theorem padded_four (n : Nat) : padded 4 n = padded 2 (n / 100) ++ padded 2 (n % 100) := by
  have hthousands : n / 10 / 10 / 10 % 10 = n / 100 / 10 % 10 := by omega
  have hhundreds : n / 10 / 10 % 10 = n / 100 % 10 := by omega
  have htens : n / 10 % 10 = n % 100 / 10 % 10 := by omega
  have hones : n % 10 = n % 100 % 10 := by omega
  simp only [padded, List.nil_append, List.append_assoc]
  rw [hthousands, hhundreds, htens, hones]

theorem isDigit_of_mem_digitChars (digits : List (Fin 10)) :
    ∀ c ∈ digitChars digits, c.isDigit = true := by
  intro c hc
  obtain ⟨d, -, rfl⟩ := List.mem_map.mp hc
  exact isDigit_digitChar d.isLt

theorem length_digitChars (digits : List (Fin 10)) : (digitChars digits).length = digits.length :=
  List.length_map _

-- =============================================================== fractions

theorem fractionOf_eq (digits : List (Fin 10)) :
    fractionOf digits = valueOf 10 (digitChars digits) / 10 ^ digits.length := by
  induction digits with
  | nil => simp [fractionOf, digitChars, valueOf]
  | cons d digits ih =>
      have hd : valueOf 10 [d.val.digitChar] = d :=
        valueOf_singleton (by decide) (isDigit_ten_digitChar d.isLt)
      have hcons : digitChars (d :: digits) = d.val.digitChar :: digitChars digits := rfl
      rw [fractionOf, ih, hcons, valueOf_cons, hd, length_digitChars, List.length_cons]
      push_cast
      field_simp
      ring

/-- Whole nanoseconds come from the first nine digits. -/
theorem floor_fractionOf (digits : List (Fin 10)) :
    ⌊fractionOf digits * 10 ^ 9⌋₊
      = valueOf 10 ((digitChars digits).take 9) * 10 ^ (9 - (digitChars digits).length) := by
  have hquotient : fractionOf digits * 10 ^ 9
      = ((valueOf 10 (digitChars digits) * 10 ^ 9 : Nat) : ℚ)
        / ((10 ^ (digitChars digits).length : Nat) : ℚ) := by
    rw [fractionOf_eq, length_digitChars]
    push_cast
    ring
  rw [hquotient, Nat.floor_div_eq_div, valueOf_mul_pow_div (by decide)]

-- ================================================================= pieces

theorem readDigit_digitChar {n : Nat} (hn : n < 10) (rest : List Char) :
    readDigit (n.digitChar :: rest) = .ok (n, rest) := by
  have hvalue : n.digitChar.toNat - '0'.toNat = n := Nat.toNat_digitChar_sub_48_of_lt_ten hn
  rw [readDigit, if_pos (isDigit_digitChar hn), hvalue]

/-- A number of two digits is read back. -/
theorem readTwo_padded {n : Nat} (hn : n < 100) (rest : List Char) :
    readTwo (padded 2 n ++ rest) = .ok (n, rest) := by
  have htens := readDigit_digitChar (n := n / 10 % 10) (by omega) ((n % 10).digitChar :: rest)
  have hones := readDigit_digitChar (n := n % 10) (by omega) rest
  have hn : 10 * (n / 10 % 10) + n % 10 = n := by omega
  show readTwo ((n / 10 % 10).digitChar :: (n % 10).digitChar :: rest) = _
  simp only [readTwo, bind, Except.bind, htens, hones, pure, Except.pure, hn]

/-- A number of four digits is read back. -/
theorem readFour_padded {n : Nat} (hn : n < 10000) (rest : List Char) :
    readFour (padded 4 n ++ rest) = .ok (n, rest) := by
  have hhigh := readTwo_padded (n := n / 100) (by omega) (padded 2 (n % 100) ++ rest)
  have hlow := readTwo_padded (n := n % 100) (by omega) rest
  have hn : 100 * (n / 100) + n % 100 = n := by omega
  rw [padded_four, List.append_assoc]
  simp only [readFour, bind, Except.bind, hhigh, hlow, pure, Except.pure, hn]

theorem expect_cons (c : Char) (rest : List Char) : expect c (c :: rest) = .ok rest := by
  rw [expect, if_pos rfl]

theorem length_le_byteLength (cs : List Char) : cs.length ≤ byteLength cs := by
  induction cs with
  | nil => exact le_rfl
  | cons c cs ih =>
      have hc := Char.utf8Size_pos c
      show cs.length + 1 ≤ c.utf8Size + byteLength cs
      omega

/-- A date is read back. -/
theorem readDate_dateChars (t : LocalTime) (rest : List Char) :
    readDate (t.dateChars ++ rest) = .ok (t.moment.date, rest) := by
  have hmonth := t.date.month_le
  have hday := t.date.day_le_longest
  unfold LocalTime.dateChars
  simp only [readDate, List.append_assoc, List.cons_append, bind, Except.bind,
    readFour_padded t.year_lt, expect_cons, readTwo_padded (show t.month < 100 by omega),
    readTwo_padded (show t.day < 100 by omega), dif_pos (validDate_iff.mpr t.date), pure,
    Except.pure]
  rfl

/-- A fraction is read back, cut to nanoseconds. -/
theorem readFraction_fractionChars (digits : List (Fin 10)) {rest : List Char}
    (hrest : ∀ c ∈ rest.head?, c ≠ '.' ∧ c.isDigit = false) :
    readFraction (fractionChars digits ++ rest) = .ok (⌊fractionOf digits * 10 ^ 9⌋₊, rest) := by
  cases digits with
  | nil =>
      show readFraction rest = _
      have hzero : ⌊fractionOf [] * 10 ^ 9⌋₊ = 0 := by simp [fractionOf]
      rw [hzero]
      unfold readFraction
      split
      · exact absurd rfl (hrest '.' rfl).1
      · rfl
  | cons d digits =>
      obtain ⟨hfront, hback⟩ :=
        span_append (isDigit_of_mem_digitChars (d :: digits)) fun c hc => (hrest c hc).2
      show readFraction ('.' :: (digitChars (d :: digits) ++ rest)) = _
      rw [floor_fractionOf]
      have hne : digitChars (d :: digits) ≠ [] := List.cons_ne_nil _ _
      simp only [readFraction, hfront, hback]
      rw [if_neg (List.append_ne_nil_of_left_ne_nil hne rest), if_neg hne]
      rfl

/-- A time of day is read back, its fraction cut to nanoseconds. -/
theorem readTimeOfDay_timeChars (t : LocalTime) {rest : List Char}
    (hrest : ∀ c ∈ rest.head?, c ≠ '.' ∧ c.isDigit = false) :
    readTimeOfDay (t.timeChars ++ rest) = .ok (t.moment.time, rest) := by
  have hhour := t.hour.isLt
  have hminute := t.minute.isLt
  have hsecond := t.second.isLt
  have hrange : t.hour.val < 24 ∧ t.minute.val < 60 ∧ t.second.val < 60 :=
    ⟨hhour, hminute, hsecond⟩
  unfold LocalTime.timeChars
  simp only [readTimeOfDay, List.append_assoc, List.cons_append, bind, Except.bind,
    readTwo_padded (show t.hour.val < 100 by omega), expect_cons,
    readTwo_padded (show t.minute.val < 100 by omega),
    readTwo_padded (show t.second.val < 100 by omega),
    readFraction_fractionChars t.fraction hrest, dif_pos hrange, pure,
    Except.pure]
  rfl

-- ================================================================ reading

theorem byteLength_padded_two (n : Nat) (rest : List Char) :
    ¬ byteLength (padded 2 n ++ rest) < 2 := by
  have hle := length_le_byteLength (padded 2 n ++ rest)
  rw [List.length_append, length_padded] at hle
  omega

theorem readOffsetHours_padded (hours : Fin 24) (rest : List Char) :
    readOffsetHours (padded 2 hours ++ rest) = .ok (hours.val, rest) := by
  have hhours := hours.isLt
  rw [readOffsetHours, if_neg (byteLength_padded_two _ _), readTwo_padded (by omega)]

theorem readOffsetMinutes_padded (minutes : Fin 60) (rest : List Char) :
    readOffsetMinutes (padded 2 minutes ++ rest) = .ok (minutes.val, rest) := by
  have hminutes := minutes.isLt
  have hrange : ¬ 59 < minutes.val := by omega
  simp only [readOffsetMinutes, bind, Except.bind, if_neg (byteLength_padded_two _ _),
    readTwo_padded (show minutes.val < 100 by omega), if_neg hrange, pure, Except.pure]

/-- How an offset is read once its sign is known. -/
def readClock (sign : Int) (cs : List Char) : Except Fault (Int × List Char) := do
  let (hours, cs) ← readOffsetHours cs
  let cs ← expect ':' cs
  let (minutes, cs) ← readOffsetMinutes cs
  return (sign * (3600 * hours + 60 * minutes : Nat), cs)

theorem readClock_padded (sign : Int) (hours : Fin 24) (minutes : Fin 60) :
    readClock sign (padded 2 hours ++ ':' :: padded 2 minutes)
      = .ok (sign * (3600 * hours + 60 * minutes : Nat), []) := by
  have hminutes := readOffsetMinutes_padded minutes []
  rw [List.append_nil] at hminutes
  simp only [readClock, bind, Except.bind, readOffsetHours_padded, expect_cons, hminutes, pure,
    Except.pure]

theorem readOffset_sign {c : Char} {sign : Int} {rest : List Char} (hcapital : c ≠ 'Z')
    (hsmall : c ≠ 'z') (hsign : readOffsetSign (c :: rest) = .ok (sign, rest)) :
    readOffset (c :: rest) = readClock sign rest := by
  unfold readOffset
  split
  · next heq => exact absurd (List.cons.inj heq).1 hcapital
  · next heq => exact absurd (List.cons.inj heq).1 hsmall
  · rw [hsign]
    rfl

/-- An offset is read back. -/
theorem readOffset_chars (zone : Zone) : readOffset (zone.chars 'Z') = .ok (zone.offset, []) := by
  cases zone with
  | utc => rfl
  | east hours minutes =>
      rw [Zone.chars, readOffset_sign (by decide) (by decide) rfl, readClock_padded, Int.one_mul]
      rfl
  | west hours minutes =>
      rw [Zone.chars, readOffset_sign (by decide) (by decide) rfl, readClock_padded,
        Int.neg_one_mul]
      rfl

/-- What stands behind the seconds does not belong to their fraction. -/
theorem head?_zone_chars (zone : Zone) :
    ∀ c ∈ (zone.chars 'Z').head?, c ≠ '.' ∧ c.isDigit = false := by
  intro c hc
  cases zone with
  | utc =>
      rw [← Option.some.inj hc]
      decide
  | east hours minutes =>
      rw [← Option.some.inj hc]
      decide
  | west hours minutes =>
      rw [← Option.some.inj hc]
      decide

/-- A local time in capitals is read back. -/
theorem readDateTime_chars (t : LocalTime) :
    readDateTime (t.dateChars ++ 'T' :: (t.timeChars ++ t.zone.chars 'Z')) = .ok t.moment := by
  have hlong : ¬ byteLength (t.dateChars ++ 'T' :: (t.timeChars ++ t.zone.chars 'Z')) < 19 := by
    have hle := length_le_byteLength (t.dateChars ++ 'T' :: (t.timeChars ++ t.zone.chars 'Z'))
    have hlength : 19 ≤ (t.dateChars ++ 'T' :: (t.timeChars ++ t.zone.chars 'Z')).length := by
      simp only [LocalTime.dateChars, LocalTime.timeChars, List.length_append, List.length_cons,
        length_padded]
      omega
    omega
  have hseparator : ∀ rest, readSeparator ('T' :: rest) = .ok rest := fun rest => rfl
  simp only [readDateTime, bind, Except.bind, if_neg hlong, readDate_dateChars, hseparator,
    readTimeOfDay_timeChars t (head?_zone_chars t.zone), readOffset_chars,
    dif_pos t.zone.natAbs_offset_lt, pure, Except.pure]
  rfl

-- ==================================================================== days

/-- A quotient that is rounded up grows behind each multiple. -/
theorem roundedUp_succ (year period : Nat) (hpos : 0 < period) :
    (year + 1 + (period - 1)) / period
      = (year + (period - 1)) / period + if period ∣ year then 1 else 0 := by
  have hshift : year + 1 + (period - 1) = year + (period - 1) + 1 := by omega
  have hperiod : year + (period - 1) + 1 = year + period := by omega
  rw [hshift, Nat.succ_div, hperiod]
  simp only [Nat.dvd_add_self_right]

/-- The formula counts the days of the years before. -/
theorem daysBeforeYear_eq (year : Nat) :
    daysBeforeYear year = ((List.range year).map fun y => (monthLengths y).sum).sum := by
  induction year with
  | zero => rfl
  | succ year ih =>
      have hfour : (year + 1 + 3) / 4 = (year + 3) / 4 + if 4 ∣ year then 1 else 0 :=
        roundedUp_succ year 4 (by decide)
      have hcentury : (year + 1 + 99) / 100 = (year + 99) / 100 + if 100 ∣ year then 1 else 0 :=
        roundedUp_succ year 100 (by decide)
      have hfourth : (year + 1 + 399) / 400 = (year + 399) / 400 + if 400 ∣ year then 1 else 0 :=
        roundedUp_succ year 400 (by decide)
      -- so that nothing is cut off where the centuries are taken out
      have hcenturies : (year + 99) / 100 ≤ 365 * year := by omega
      have hone : (if 100 ∣ year then 1 else 0) ≤ 1 := by
        split
        · exact le_rfl
        · exact Nat.zero_le 1
      have hlength := sum_monthLengths year
      rw [List.range_succ, List.map_append, List.sum_append, ← ih, List.map_singleton,
        List.sum_singleton]
      unfold daysBeforeYear
      rw [hfour, hcentury, hfourth]
      clear ih hfour hcentury hfourth
      generalize (if 4 ∣ year then 1 else 0) = four, (if 100 ∣ year then 1 else 0) = century,
        (if 400 ∣ year then 1 else 0) = fourth at *
      generalize (year + 99) / 100 = centuries at *
      omega

/-- The days before a month are those of the months before it. -/
theorem daysBeforeMonth_eq {year month : Nat} (hpos : 1 ≤ month) (hle : month ≤ 12) :
    daysBeforeMonth year month = ((monthLengths year).take (month - 1)).sum := by
  induction month, hpos using Nat.le_induction with
  | base => rfl
  | succ month hpos ih =>
      obtain ⟨before, rfl⟩ : ∃ before, month = before + 1 := ⟨month - 1, by omega⟩
      have hmonth : (monthLengths year)[before + 1 - 1]? = some (daysInMonth year (before + 1)) :=
        getElem?_monthLengths hpos (by omega)
      rw [Nat.add_sub_cancel] at hmonth ih ⊢
      rw [daysBeforeMonth, ih (by omega), List.take_add_one, hmonth, Option.toList_some,
        List.sum_append, List.sum_singleton]
      exact Nat.succ_ne_zero before

/-- A date is as many days after the first day of 1970 as there are between them. -/
theorem daysSinceEpoch_eq (date : Date) :
    daysSinceEpoch date
      = (dayNumber date.year date.month date.day : Int) - (dayNumber 1970 1 1 : Int) := by
  have hdate := validDate_iff.mp date.valid
  have hfirst : dayNumber 1970 1 1 = epochDays := by
    have hyears : daysBeforeYear 1970 = epochDays := rfl
    unfold dayNumber
    rw [← daysBeforeYear_eq, hyears]
    rfl
  have hnumber : dayNumber date.year date.month date.day
      = daysBeforeYear date.year + daysBeforeMonth date.year date.month + date.day - 1 := by
    have hday := hdate.day_pos
    unfold dayNumber
    rw [← daysBeforeYear_eq, ← daysBeforeMonth_eq hdate.month_pos hdate.month_le]
    omega
  unfold daysSinceEpoch
  rw [hfirst, hnumber]

/-- The whole seconds of a local time from the formula. -/
theorem seconds_eq (t : LocalTime) :
    t.seconds = daysSinceEpoch t.moment.date * 86400
      + (3600 * t.hour + 60 * t.minute + t.second : Nat) - t.zone.offset := by
  rw [daysSinceEpoch_eq]
  rfl

/-- Carrying a local time over into UTC keeps its instant. -/
theorem instant_toUtc (m : OffsetDateTime) : (toUtc m).instant = m.instant := by
  unfold Timestamp.instant OffsetDateTime.instant toUtc
  rw [daysSinceEpoch_eq]
  push_cast
  ring

/-- The calendar reads every local time back. -/
theorem calendar_readsLocalTimes : calendar.ReadsLocalTimes := by
  intro t
  unfold calendar LocalTime.text
  simp only [String.toList_ofList, readDateTime_chars]

/-- The calendar keeps instants. -/
theorem calendar_keepsInstants : calendar.KeepsInstants := by
  intro m
  exact ⟨instant_toUtc m, fun hlt => hlt⟩

end EnvSettings.Sample.Rfc3339
