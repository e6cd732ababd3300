/-
The calendar that the sample applications leave dates to. It reads them as RFC 3339 has them,
`2006-01-02T15:04:05.5+01:00`, and takes a small t or a space for the capital T as well, and a small
z for UTC.

The reading goes from left to right and names the first thing that is wrong; a date or a time of
day that does not exist is found once all its digits are read. To carry a date over into UTC, the
days before its year come from a formula and those of its months are counted.
-/
import EnvSettings.Number.Digit
import EnvSettings.Time.Timestamp

namespace EnvSettings.Sample.Rfc3339

open EnvSettings.Number EnvSettings.Time Timestamp

-- ================================================================= pieces

/-- How many bytes the text takes. -/
def byteLength (cs : List Char) : Nat := cs.foldr (fun c bytes => c.utf8Size + bytes) 0

/-- Reads one digit of a field whose place in the text is fixed. -/
def readDigit : List Char → Except Fault (Nat × List Char)
  | [] => .error .invalid
  | c :: rest => if c.isDigit then .ok (c.toNat - '0'.toNat, rest) else .error .invalid

/-- Reads a number of two digits. -/
def readTwo (cs : List Char) : Except Fault (Nat × List Char) := do
  let (tens, cs) ← readDigit cs
  let (ones, cs) ← readDigit cs
  return (10 * tens + ones, cs)

/-- Reads a number of four digits. -/
def readFour (cs : List Char) : Except Fault (Nat × List Char) := do
  let (high, cs) ← readTwo cs
  let (low, cs) ← readTwo cs
  return (100 * high + low, cs)

/-- Takes one character off, which must be the expected one. -/
def expect (expected : Char) : List Char → Except Fault (List Char)
  | [] => .error .tooShort
  | c :: rest => if c = expected then .ok rest else .error .invalid

/-- Reads a date that exists. -/
def readDate (cs : List Char) : Except Fault (Date × List Char) := do
  let (year, cs) ← readFour cs
  let cs ← expect '-' cs
  let (month, cs) ← readTwo cs
  let cs ← expect '-' cs
  let (day, cs) ← readTwo cs
  if valid : validDate year month day = true then return (⟨year, month, day, valid⟩, cs)
  else throw .outOfRange

/-- Reads what separates date and time of day. -/
def readSeparator : List Char → Except Fault (List Char)
  | [] => .error .tooShort
  | c :: rest => if c = 'T' ∨ c = 't' ∨ c = ' ' then .ok rest else .error .invalid

/-- Reads a fraction of a second, if there is one, as nanoseconds; digits after the ninth are
passed over. -/
def readFraction : List Char → Except Fault (Nat × List Char)
  | '.' :: cs =>
    let digits := cs.takeWhile Char.isDigit
    let rest := cs.dropWhile Char.isDigit
    if cs = [] then .error .tooShort
    else if digits = [] then .error .invalid
    else .ok (valueOf 10 (digits.take 9) * Nat.pow 10 (9 - digits.length), rest)
  | cs => .ok (0, cs)

/-- Reads a time of day that exists. A second numbered 60 is the second before it with a whole
extra second of nanoseconds. -/
def readTimeOfDay (cs : List Char) : Except Fault (TimeOfDay × List Char) := do
  let (hour, cs) ← readTwo cs
  let cs ← expect ':' cs
  let (minute, cs) ← readTwo cs
  let cs ← expect ':' cs
  let (second, cs) ← readTwo cs
  let (nanosecond, cs) ← readFraction cs
  if range : hour < 24 ∧ minute < 60 ∧ second < 60 then
    return (⟨⟨hour, range.1⟩, ⟨minute, range.2.1⟩, ⟨second, range.2.2⟩, nanosecond⟩, cs)
  else if range : hour < 24 ∧ minute < 60 ∧ second = 60 then
    return (⟨⟨hour, range.1⟩, ⟨minute, range.2.1⟩, 59, 1000000000 + nanosecond⟩, cs)
  else throw .outOfRange

/-- Reads the sign of an offset: plus, hyphen or the minus sign proper. -/
def readOffsetSign : List Char → Except Fault (Int × List Char)
  | [] => .error .tooShort
  | c :: rest =>
    if c = '+' then .ok (1, rest)
    else if c = '-' ∨ c = '\u2212' then .ok (-1, rest)
    else .error .invalid

/-- Reads the hours of an offset. -/
def readOffsetHours (cs : List Char) : Except Fault (Nat × List Char) :=
  if byteLength cs < 2 then .error .tooShort else readTwo cs

/-- Reads the minutes of an offset. -/
def readOffsetMinutes (cs : List Char) : Except Fault (Nat × List Char) := do
  if byteLength cs < 2 then throw .tooShort
  let (minutes, cs) ← readTwo cs
  if 59 < minutes then throw .outOfRange
  return (minutes, cs)

/-- Reads an offset as seconds east: the letter Z in either case, or a sign, hours and minutes. -/
def readOffset : List Char → Except Fault (Int × List Char)
  | 'Z' :: rest => .ok (0, rest)
  | 'z' :: rest => .ok (0, rest)
  | cs => do
    let (sign, cs) ← readOffsetSign cs
    let (hours, cs) ← readOffsetHours cs
    let cs ← expect ':' cs
    let (minutes, cs) ← readOffsetMinutes cs
    return (sign * (3600 * hours + 60 * minutes : Nat), cs)

-- ================================================================== dates

/-- Reads a date, a time of day and an offset. -/
def readDateTime (cs : List Char) : Except Fault OffsetDateTime := do
  if byteLength cs < 19 then throw .tooShort
  let (date, cs) ← readDate cs
  let cs ← readSeparator cs
  let (time, cs) ← readTimeOfDay cs
  let (offset, cs) ← readOffset cs
  if cs ≠ [] then throw .tooLong
  if offset_lt : offset.natAbs < 86400 then return ⟨date, time, offset, offset_lt⟩
  else throw .outOfRange

/-- The days from the first day of year 0 to the first day of a year. -/
def daysBeforeYear (year : Nat) : Nat :=
  365 * year + (year + 3) / 4 - (year + 99) / 100 + (year + 399) / 400

/-- The days of a year before a month of it. -/
def daysBeforeMonth (year : Nat) : (month : Nat) → Nat
  | 0 => 0
  | 1 => 0
  | month + 1 => daysBeforeMonth year month + daysInMonth year month

/-- The days from the first day of year 0 to the first day of 1970. -/
def epochDays : Nat := 719528

/-- The days from the first day of 1970 to a date. -/
def daysSinceEpoch (date : Date) : Int :=
  ((daysBeforeYear date.year + daysBeforeMonth date.year date.month + date.day - 1 : Nat) : Int)
    - epochDays

/-- The instant of a date and a time of day. -/
def toUtc (moment : OffsetDateTime) : Timestamp where
  seconds :=
    daysSinceEpoch moment.date * 86400
      + (3600 * moment.time.hour + 60 * moment.time.minute + moment.time.second : Nat)
      - moment.offset
  nanoseconds := moment.time.nanosecond

/-- The calendar of RFC 3339. -/
def calendar : Calendar where
  read raw := readDateTime raw.toList
  toUtc := toUtc

end EnvSettings.Sample.Rfc3339
