/-!
# Points in time

A `Timestamp` is a date of the Gregorian calendar, a time of day to the nanosecond, and the offset
of the place from universal time. Every timestamp is a real one: its month has its day.

Results: `ofFields?_fields`: the fields of a timestamp give it back.
-/

namespace ConfigGate

/-- Whether a year has a leap day. -/
def isLeapYear (year : Nat) : Bool := year % 4 = 0 && (year % 100 ≠ 0 || year % 400 = 0)

/-- The number of days of a month. -/
def daysInMonth (year month : Nat) : Nat :=
  if month = 2 then (if isLeapYear year then 29 else 28)
  else if month = 4 || month = 6 || month = 9 || month = 11 then 30
  else 31

/-- A point in time as it is written: date, time of day, and minutes ahead of universal time. -/
structure TimeFields where
  year : Nat
  month : Nat
  day : Nat
  hour : Nat
  minute : Nat
  second : Nat
  nanosecond : Nat
  offset : Int
deriving DecidableEq, Repr

/-- Whether there is a point in time with these fields. -/
def TimeFields.isReal (fields : TimeFields) : Bool :=
  fields.year ≤ 9999 && 1 ≤ fields.month && fields.month ≤ 12 && 1 ≤ fields.day &&
    fields.day ≤ daysInMonth fields.year fields.month && fields.hour ≤ 23 &&
    fields.minute ≤ 59 && fields.second ≤ 59 && fields.nanosecond ≤ 999999999 &&
    fields.offset.natAbs < 24 * 60

/-- A point in time. -/
structure Timestamp extends TimeFields where
  isReal : toTimeFields.isReal = true
deriving DecidableEq

namespace Timestamp

/-- The point in time with these fields, if there is one. -/
def ofFields? (fields : TimeFields) : Option Timestamp :=
  if real : fields.isReal = true then some ⟨fields, real⟩ else none

theorem ofFields?_fields (time : Timestamp) : ofFields? time.toTimeFields = some time := by
  simp [ofFields?, time.isReal]

/-- The first instant of 1970. -/
def epoch : Timestamp := ⟨⟨1970, 1, 1, 0, 0, 0, 0, 0⟩, by decide⟩

/-- Year, month and day of the day that comes so many days after 1 January 1970. Years are counted
from March on, so that a leap day is the last day of its year. -/
def dateOfDays (days : Nat) : Nat × Nat × Nat :=
  let count := days + 719468
  let cycle := count / 146097
  let dayOfCycle := count % 146097
  let yearOfCycle :=
    (dayOfCycle - dayOfCycle / 1460 + dayOfCycle / 36524 - dayOfCycle / 146096) / 365
  let dayOfYear := dayOfCycle - (365 * yearOfCycle + yearOfCycle / 4 - yearOfCycle / 100)
  let monthFromMarch := (5 * dayOfYear + 2) / 153
  let day := dayOfYear - (153 * monthFromMarch + 2) / 5 + 1
  let month := if monthFromMarch < 10 then monthFromMarch + 3 else monthFromMarch - 9
  let year := cycle * 400 + yearOfCycle
  (if month ≤ 2 then year + 1 else year, month, day)

/-- The instant so many seconds and nanoseconds after the first of 1970, in universal time. -/
def ofEpoch (seconds nanosecond : Nat) : Timestamp :=
  let (year, month, day) := dateOfDays (seconds / 86400)
  let second := seconds % 86400
  (ofFields? ⟨year, month, day, second / 3600, second / 60 % 60, second % 60, nanosecond, 0⟩).getD
    epoch

end Timestamp

end ConfigGate
