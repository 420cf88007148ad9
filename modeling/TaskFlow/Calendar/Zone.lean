/-
TaskFlow.Calendar.Zone — time zones.

  §1 Rules   — `ZoneRule` is a fixed offset, or two offsets that take turns in the year.
  §2 Offsets — `offset?` reads `+08:00`, `-0530` or `+8`.
-/
import TaskFlow.Calendar.Date
import TaskFlow.Text.Cut
import TaskFlow.Text.Numeral

namespace TaskFlow.Calendar

open TaskFlow.Text

/-! ## §1 Rules -/

/-- A yearly change of the clocks: on the `week`-th given weekday of a month (the fifth is the
last), some seconds after midnight by the clock in use before the change. -/
structure Change where
  month : Nat
  week : Nat
  weekday : Nat
  time : Int
deriving DecidableEq, Repr

/-- How a zone's clocks run. -/
inductive ZoneRule where
  | fixed (offset : Int)
  /-- Standard time and summer time with the changes to summer time and back. -/
  | seasonal (standard summer : Int) (begins ends : Change)
deriving DecidableEq, Repr

/-- The number of days of a month. -/
def monthLength (year : Int) (month : Nat) : Nat :=
  let next : Date := if month = 12 then ⟨year + 1, 1, 1⟩ else ⟨year, month + 1, 1⟩
  (dayNumber next - dayNumber ⟨year, month, 1⟩).toNat

/-- The day number of a change in a year. -/
def Change.dayIn (c : Change) (year : Int) : Int :=
  let first := dayNumber ⟨year, c.month, 1⟩
  let weekdayOfFirst := ((first + 4) % 7).toNat
  let dayOfMonth := (c.weekday + 7 - weekdayOfFirst) % 7 + 7 * (c.week - 1)
  first + (if dayOfMonth < monthLength year c.month then dayOfMonth else dayOfMonth - 7 : Nat)

/-- The seconds since 1970 at which a change takes place, the clock being ahead by `offset`. -/
def Change.secondsIn (c : Change) (year offset : Int) : Int :=
  c.dayIn year * 86400 + c.time - offset

/-- The seconds that a zone's clock is ahead of UTC at an instant. -/
def ZoneRule.offsetAt (rule : ZoneRule) (i : Instant) : Int :=
  match rule with
  | .fixed offset => offset
  | .seasonal standard summer begins ends =>
    let year := (LocalTime.date ⟨i, standard⟩).year
    let opening := begins.secondsIn year standard
    let closing := ends.secondsIn year summer
    let inSummer :=
      if opening < closing then opening ≤ i.seconds ∧ i.seconds < closing
      else ¬ (closing ≤ i.seconds ∧ i.seconds < opening)
    if inSummer then summer else standard

/-! ## §2 Offsets -/

/-- Hours and minutes behind the sign: around a colon, as four digits, or hours alone. -/
def hoursAndMinutes (cs : List Char) : List Char × List Char :=
  match cutFirst ':' cs with
  | some halves => halves
  | none => if cs.length = 4 then (cs.take 2, cs.drop 2) else (cs, ['0'])

/-- The seconds ahead of UTC that a signed offset spells, at most 18 hours 59 minutes. -/
def offset? (cs : List Char) : Option Int := do
  let (sign, rest) ← match cs with
    | '+' :: rest => some ((1 : Int), rest)
    | '-' :: rest => some ((-1 : Int), rest)
    | _ => none
  let (hours, minutes) := hoursAndMinutes rest
  let hours ← unsigned? 256 hours
  let minutes ← unsigned? 256 minutes
  if hours ≤ 18 ∧ minutes ≤ 59 then some (sign * (hours * 3600 + minutes * 60)) else none

end TaskFlow.Calendar
