/-
TaskFlow.Calendar.Date — dates and times of the Gregorian calendar.

Days are counted from 1970-01-01.

  §1 Days  — `dayNumber` and `civil` convert between a date and its day number.
  §2 Times — `Instant` is a point in time, `LocalTime` the reading of a clock with a fixed offset.
  §3 Weeks — weekdays, ordinals and week numbers.
-/

namespace TaskFlow.Calendar

/-! ## §1 Days -/

/-- A date. Months and days count from one. -/
structure Date where
  year : Int
  month : Nat
  day : Nat
deriving DecidableEq, Repr

/-- The day number of a date. Years are counted from March, so that the leap day comes last, and in
cycles of four hundred. -/
def dayNumber (d : Date) : Int :=
  let year := if d.month ≤ 2 then d.year - 1 else d.year
  let cycle := year / 400
  let yearOfCycle := year % 400
  let monthFromMarch : Nat := (d.month + 9) % 12
  let dayOfYear : Int := (153 * monthFromMarch + 2) / 5 + d.day - 1
  cycle * 146097 + yearOfCycle * 365 + yearOfCycle / 4 - yearOfCycle / 100 + dayOfYear - 719468

/-- The date of a day number. -/
def civil (number : Int) : Date :=
  let shifted := number + 719468
  let cycle := shifted / 146097
  let day := (shifted % 146097).toNat
  let year := (day - day / 1460 + day / 36524 - day / 146096) / 365
  let dayOfYear := day - (365 * year + year / 4 - year / 100)
  let monthFromMarch := (5 * dayOfYear + 2) / 153
  let month := if monthFromMarch < 10 then monthFromMarch + 3 else monthFromMarch - 9
  { year := (year : Int) + cycle * 400 + (if month ≤ 2 then 1 else 0)
    month
    day := dayOfYear - (153 * monthFromMarch + 2) / 5 + 1 }

/-! ## §2 Times -/

/-- A point in time: whole seconds since 1970-01-01 00:00:00 UTC and nanoseconds. -/
structure Instant where
  seconds : Int
  nanos : Nat
deriving DecidableEq, Repr, Inhabited

/-- The instant some milliseconds later. -/
def Instant.addMillis (i : Instant) (millis : Nat) : Instant :=
  let nanos := i.nanos + millis % 1000 * 1000000
  { seconds := i.seconds + millis / 1000 + nanos / 1000000000
    nanos := nanos % 1000000000 }

/-- The reading of a clock. -/
structure LocalTime where
  instant : Instant
  /-- Seconds that the clock is ahead of UTC. -/
  offset : Int
deriving DecidableEq, Repr

namespace LocalTime

/-- Seconds on the clock since its 1970-01-01 00:00:00. -/
def clockSeconds (t : LocalTime) : Int := t.instant.seconds + t.offset

/-- The day number on the clock. -/
def dayNumber (t : LocalTime) : Int := t.clockSeconds / 86400

/-- The date on the clock. -/
def date (t : LocalTime) : Date := civil t.dayNumber

/-- Seconds since midnight. -/
def secondOfDay (t : LocalTime) : Nat := (t.clockSeconds % 86400).toNat

/-- The hour from 0 to 23. -/
def hour (t : LocalTime) : Nat := t.secondOfDay / 3600

/-- The minute. -/
def minute (t : LocalTime) : Nat := t.secondOfDay / 60 % 60

/-- The second. -/
def second (t : LocalTime) : Nat := t.secondOfDay % 60

/-- The hour from 1 to 12. -/
def hour12 (t : LocalTime) : Nat := if t.hour % 12 = 0 then 12 else t.hour % 12

/-! ## §3 Weeks -/

/-- Days since Sunday. -/
def daysFromSunday (t : LocalTime) : Nat := ((t.dayNumber + 4) % 7).toNat

/-- Days since Monday. -/
def daysFromMonday (t : LocalTime) : Nat := ((t.dayNumber + 3) % 7).toNat

/-- The day of the year from 1. -/
def ordinal (t : LocalTime) : Nat :=
  (t.dayNumber - Calendar.dayNumber ⟨t.date.year, 1, 1⟩ + 1).toNat

/-- The number of the week, weeks starting on Sunday and days before the first one in week 0. -/
def weekFromSunday (t : LocalTime) : Nat := (t.ordinal + 6 - t.daysFromSunday) / 7

/-- The number of the week, weeks starting on Monday and days before the first one in week 0. -/
def weekFromMonday (t : LocalTime) : Nat := (t.ordinal + 6 - t.daysFromMonday) / 7

/-- The year that the week of this day belongs to: the year of its Thursday. -/
def weekYear (t : LocalTime) : Int :=
  (civil (t.dayNumber - t.daysFromMonday + 3)).year

/-- The number of the week in its year; the first week holds the year's first Thursday. -/
def weekOfWeekYear (t : LocalTime) : Nat :=
  let thursday := t.dayNumber - t.daysFromMonday + 3
  ((thursday - Calendar.dayNumber ⟨(civil thursday).year, 1, 1⟩) / 7 + 1).toNat

end LocalTime

end TaskFlow.Calendar
