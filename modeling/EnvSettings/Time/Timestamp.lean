/-
Instants, and how a text is read as one.

Dates are read and carried over into UTC by a library (`Calendar`), of which nothing is assumed
here. What is added to it is a check of the text: a library may take more than the strict form of
date, capital T, time of day and offset, `2006-01-02T15:04:05.5+01:00`, and where a text has not
this shape it does not come to see it.
-/

namespace EnvSettings.Time

-- ========================================================= dates and times

/-- Every fourth year has a day more, but of the centuries only every fourth. -/
def isLeapYear (year : Nat) : Bool :=
  year % 4 = 0 && (year % 100 ≠ 0 || year % 400 = 0)

/-- How many days a month has. -/
def daysInMonth (year month : Nat) : Nat :=
  match month with
  | 2 => if isLeapYear year then 29 else 28
  | 4 => 30
  | 6 => 30
  | 9 => 30
  | 11 => 30
  | _ => 31

/-- There is such a day. Years are counted from 0, months and days from 1. -/
def validDate (year month day : Nat) : Bool :=
  1 ≤ month && month ≤ 12 && 1 ≤ day && day ≤ daysInMonth year month

/-- A date that exists. -/
structure Date where
  year : Nat
  month : Nat
  day : Nat
  valid : validDate year month day = true

/-- What a clock shows. -/
structure TimeOfDay where
  hour : Fin 24
  minute : Fin 60
  second : Fin 60
  /-- Nanoseconds into the second. In a leap second they go on beyond a second. -/
  nanosecond : Nat

/-- A date and a time of day at some distance from UTC. -/
structure OffsetDateTime where
  date : Date
  time : TimeOfDay
  /-- By how many seconds calendar and clock are ahead of UTC. -/
  offset : Int
  offset_lt : offset.natAbs < 86400

-- =============================================================== instants

/-- An instant: seconds since the start of 1970, and nanoseconds into the second. In a leap
second the nanoseconds go on beyond a second. -/
structure Timestamp where
  seconds : Int
  nanoseconds : Nat
  deriving Repr, DecidableEq

namespace Timestamp

/-- The start of 1970. -/
def epoch : Timestamp := ⟨0, 0⟩

/-- Why a library reads no date in a text. -/
inductive Fault
  | outOfRange
  | impossible
  | notEnough
  | invalid
  | tooShort
  | tooLong
  | badFormat
  deriving Repr, DecidableEq

/-- The fault in words. -/
def Fault.message : Fault → String
  | .outOfRange => "input is out of range"
  | .impossible => "no possible date and time matching input"
  | .notEnough => "input is not enough for unique date and time"
  | .invalid => "input contains invalid characters"
  | .tooShort => "premature end of input"
  | .tooLong => "trailing input"
  | .badFormat => "bad or unsupported format string"

end Timestamp

/-- A library for dates. -/
structure Calendar where
  /-- Reads a date, a time of day and an offset from a text. -/
  read : String → Except Timestamp.Fault OffsetDateTime
  /-- The instant of a date and a time of day. -/
  toUtc : OffsetDateTime → Timestamp

-- ================================================================= reading

namespace Timestamp

/-- The character that starts at a place counted in bytes, if one does. -/
def charAtByte : (place : Nat) → List Char → Option Char
  | _, [] => none
  | 0, c :: _ => some c
  | place + 1, c :: rest =>
    if c.utf8Size ≤ place + 1 then charAtByte (place + 1 - c.utf8Size) rest else none

/-- The text has the strict shape: a capital T at the eleventh byte, and no small z at the end. -/
def hasStrictShape (cs : List Char) : Bool :=
  charAtByte 10 cs = some 'T' && cs.getLast? ≠ some 'z'

/-- Why a text is no instant. -/
inductive ReadFault
  | shape
  | content (fault : Fault)
  deriving Repr, DecidableEq

/-- Reads an instant in the strict shape. -/
def read (calendar : Calendar) (raw : String) : Except ReadFault Timestamp :=
  if hasStrictShape raw.toList then
    match calendar.read raw with
    | .ok moment => .ok (calendar.toUtc moment)
    | .error fault => .error (.content fault)
  else .error .shape

end Timestamp

end EnvSettings.Time
