/-
How local times are read. A local time with a capital T in its text, and a capital Z for UTC, is
read as its instant rounded down to nanoseconds, by any library for dates that does what is expected
of one. No text with another character between date and time, or with a small letter for UTC, is
read at all, whatever the library would take it for (`readTimestamp_instant`).

The library is asked about a text of the strict shape only. The shape is a matter of two characters
of a written local time: the one behind its date, which is the eleventh byte since a date has ten
(`charAtByte_separator`), and the last one, which is a letter only in UTC (`getLast?_zone_chars`).
-/
import EnvSettings.Proofs.Sample.Rfc3339
import EnvSettings.Value.Reading

namespace EnvSettings.Time

open Timestamp

-- ================================================================== shape

theorem utf8Size_of_isDigit {c : Char} (hc : c.isDigit = true) : c.utf8Size = 1 := by
  have hle : c.val ≤ 57 := (Bool.and_eq_true_iff.mp hc).2 |> of_decide_eq_true
  exact Char.utf8Size_eq_one_iff.mpr (UInt32.le_trans hle (by decide))

theorem charAtByte_append {front : List Char} (hfront : ∀ d ∈ front, d.utf8Size = 1) (c : Char)
    (rest : List Char) : charAtByte front.length (front ++ c :: rest) = some c := by
  induction front with
  | nil => rfl
  | cons d front ih =>
      obtain ⟨hd, hfront⟩ := List.forall_mem_cons.mp hfront
      rw [List.length_cons, List.cons_append, charAtByte, hd, if_pos (Nat.le_add_left 1 _),
        Nat.add_sub_cancel, ih hfront]

/-- The separator is where the strict shape has a capital T. -/
theorem charAtByte_separator (t : LocalTime) (separator : Char) (rest : List Char) :
    charAtByte 10 (t.dateChars ++ separator :: rest) = some separator := by
  have hlength : t.dateChars.length = 10 := by
    simp only [LocalTime.dateChars, List.length_append, List.length_cons, length_padded]
  have hascii : ∀ d ∈ t.dateChars, d.utf8Size = 1 := by
    have hpadded : ∀ places n, ∀ d ∈ padded places n, d.utf8Size = 1 :=
      fun places n d hd => utf8Size_of_isDigit (isDigit_of_mem_padded hd)
    unfold LocalTime.dateChars
    simp only [List.forall_mem_append, List.forall_mem_cons]
    exact ⟨hpadded 4 t.year, rfl, hpadded 2 t.month, rfl, hpadded 2 t.day⟩
  have hplace := charAtByte_append hascii separator rest
  rwa [hlength] at hplace

/-- Only the letter for UTC can be a small z at the end. -/
theorem getLast?_zone_chars (zone : Zone) (letter : Char) :
    (zone.chars letter).getLast? = some 'z' ↔ zone = .utc ∧ letter = 'z' := by
  -- An offset ends in a digit.
  have hdigit : ∀ minutes : Fin 60, some (minutes.val % 10).digitChar ≠ some 'z' := by decide
  cases zone with
  | utc => simp [Zone.chars]
  | east hours minutes =>
      show some (minutes.val % 10).digitChar = some 'z' ↔ _
      have hne : Zone.east hours minutes ≠ .utc := by simp
      exact iff_of_false (hdigit minutes) fun h => hne h.1
  | west hours minutes =>
      show some (minutes.val % 10).digitChar = some 'z' ↔ _
      have hne : Zone.west hours minutes ≠ .utc := by simp
      exact iff_of_false (hdigit minutes) fun h => hne h.1

/-- A text has the strict shape exactly if a capital T separates and no small z stands for UTC. -/
theorem hasStrictShape_text_iff (t : LocalTime) (separator letter : Char) :
    hasStrictShape (t.text separator letter).toList = true
      ↔ separator = 'T' ∧ ¬ (t.zone = .utc ∧ letter = 'z') := by
  have hlast : (t.dateChars ++ separator :: (t.timeChars ++ t.zone.chars letter)).getLast?
      = (t.zone.chars letter).getLast? := by
    have hne : t.zone.chars letter ≠ [] := by
      cases t.zone <;> exact List.cons_ne_nil _ _
    rw [← List.cons_append, ← List.append_assoc, List.getLast?_append_of_ne_nil _ hne]
  unfold hasStrictShape LocalTime.text
  rw [String.toList_ofList, charAtByte_separator, hlast, Bool.and_eq_true, decide_eq_true_eq,
    decide_eq_true_eq, Option.some.injEq, ne_eq, getLast?_zone_chars]

end EnvSettings.Time

namespace EnvSettings

open EnvSettings.Time

/-- Local times are read as the instants they denote. Given a library that reads them as they are
written and keeps instants, a local time with a capital T in its text, and a capital Z for UTC, is
read as its instant rounded down to nanoseconds, and local times of the same instant are read alike,
whatever their zones. With any other character in place of the T, or a small z for UTC, the text is
refused. -/
theorem readTimestamp_instant {calendar : Calendar} (hread : calendar.ReadsLocalTimes)
    (hkeep : calendar.KeepsInstants) (t : LocalTime) :
    readTimestamp calendar (t.text 'T' 'Z') = .ok (.ofInstant t.instant)
      ∧ (∀ t' : LocalTime, t.instant = t'.instant →
        readTimestamp calendar (t.text 'T' 'Z') = readTimestamp calendar (t'.text 'T' 'Z'))
      ∧ (∀ separator letter, separator ≠ 'T' ∨ (t.zone = .utc ∧ letter = 'z') →
        readTimestamp calendar (t.text separator letter)
          = .error (.invalid (t.text separator letter)
            "expected RFC 3339 timestamp like 2006-01-02T15:04:05Z")) := by
  have hall : ∀ t : LocalTime,
      readTimestamp calendar (t.text 'T' 'Z') = .ok (.ofInstant t.instant) := by
    intro t
    have hstrict : Timestamp.hasStrictShape (t.text 'T' 'Z').toList = true :=
      (hasStrictShape_text_iff t 'T' 'Z').mpr ⟨rfl, fun h => by cases h.2⟩
    obtain ⟨hsame, hless⟩ := hkeep t.moment
    have hvalue : calendar.toUtc t.moment = .ofInstant t.instant := by
      rw [Timestamp.eq_ofInstant (hless t.nanosecond_moment_lt), hsame, t.ofInstant_moment]
    rw [← hvalue]
    unfold readTimestamp Timestamp.read
    rw [if_pos hstrict, hread t]
  refine ⟨hall t, fun t' hsame => ?_, fun separator letter hother => ?_⟩
  · rw [hall t, hall t', hsame]
  · have hstrict : ¬ Timestamp.hasStrictShape (t.text separator letter).toList = true := by
      rw [hasStrictShape_text_iff]
      tauto
    unfold readTimestamp Timestamp.read
    rw [if_neg hstrict]

/-- Half a second past half past eleven on a leap day: in a zone where it is March already, and in
one where it is an hour less, with a nought behind the fraction. A small t in place of the capital
one is refused, though the calendar would read it. -/
theorem readTimestamp_instant_leap_day :
    let calendar : Calendar := Sample.Rfc3339.calendar
    let ahead : LocalTime :=
      ⟨2024, 3, 1, 0, 30, 0, [5], .east 1 0, by decide, ⟨by decide, by decide, 31, by decide⟩⟩
    let behind : LocalTime :=
      ⟨2024, 2, 29, 22, 30, 0, [5, 0], .west 1 0, by decide, ⟨by decide, by decide, 29, by decide⟩⟩
    calendar.ReadsLocalTimes ∧ calendar.KeepsInstants ∧ ahead.instant = behind.instant
      ∧ readTimestamp calendar "2024-03-01T00:30:00.5+01:00" = .ok ⟨1709249400, 500000000⟩
      ∧ readTimestamp calendar "2024-02-29T22:30:00.50-01:00" = .ok ⟨1709249400, 500000000⟩
      ∧ (∃ moment, calendar.read "2024-03-01t00:30:00.5+01:00" = .ok moment)
      ∧ ∃ e, readTimestamp calendar "2024-03-01t00:30:00.5+01:00" = .error e := by
  intro calendar ahead behind
  have htext : ahead.text 'T' 'Z' = "2024-03-01T00:30:00.5+01:00" := by decide
  have hbehind : behind.text 'T' 'Z' = "2024-02-29T22:30:00.50-01:00" := by decide
  have hsmall : ahead.text 't' 'Z' = "2024-03-01t00:30:00.5+01:00" := by decide
  have hseconds : ahead.seconds = 1709249400 := by
    rw [Sample.Rfc3339.seconds_eq]
    decide
  have hsecondsBehind : behind.seconds = 1709249400 := by
    rw [Sample.Rfc3339.seconds_eq]
    decide
  have hfraction : fractionOf [5] = fractionOf [5, 0] := by simp [fractionOf]
  have hsame : ahead.instant = behind.instant := by
    rw [LocalTime.instant_eq, LocalTime.instant_eq, hseconds, hsecondsBehind]
    exact congrArg _ hfraction
  have hvalue : Timestamp.ofInstant ahead.instant = ⟨1709249400, 500000000⟩ := by
    have hnanoseconds : ⌊fractionOf ahead.fraction * 10 ^ 9⌋₊ = 500000000 := by
      rw [Sample.Rfc3339.floor_fractionOf]
      decide
    rw [LocalTime.ofInstant_instant, hseconds, hnanoseconds]
  have hreads : calendar.ReadsLocalTimes := Sample.Rfc3339.calendar_readsLocalTimes
  have hkeeps : calendar.KeepsInstants := Sample.Rfc3339.calendar_keepsInstants
  obtain ⟨hread, halike, hother⟩ := readTimestamp_instant hreads hkeeps ahead
  rw [hvalue] at hread
  refine ⟨hreads, hkeeps, hsame, htext ▸ hread, ?_, ⟨_, rfl⟩, ?_⟩
  · rw [← hbehind, ← halike behind hsame, hread]
  · exact ⟨_, hsmall ▸ hother 't' 'Z' (Or.inl (by decide))⟩

end EnvSettings
