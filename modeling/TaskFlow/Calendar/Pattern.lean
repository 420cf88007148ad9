/-
TaskFlow.Calendar.Pattern — patterns for dates and times.

  §1 Items   — a pattern is a list of literal characters, numbers, names and offsets.
  §2 Reading — `readPattern?` reads `%Y-%m-%d` and the like.
  §3 Writing — `write?` writes a time in a pattern; the permissive offset can only be read.
  §4 ISO     — `isoText`, the default form.
-/
import TaskFlow.Calendar.Date
import TaskFlow.Text.Numeral

namespace TaskFlow.Calendar

open TaskFlow.Text

/-! ## §1 Items -/

/-- What fills a number up to its width. -/
inductive Fill where
  | none
  | zero
  | space
deriving DecidableEq, Repr

/-- A number of a time. -/
inductive Quantity where
  | year | century | yearOfCentury | weekYear | weekYearOfCentury | quarter | month | day
  | weekFromSunday | weekFromMonday | weekOfWeekYear | daysFromSunday | weekdayFromMonday | ordinal
  | hour | hour12 | minute | second | nanos | timestamp
deriving DecidableEq, Repr

/-- How an offset is written. -/
inductive OffsetForm where
  /-- `+0930` -/
  | plain
  /-- `+09:30` -/
  | colon
  /-- `+09:30:00` -/
  | seconds
  /-- `+09` -/
  | hours
  /-- For reading only. -/
  | permissive
deriving DecidableEq, Repr

/-- One item of a pattern. -/
inductive Item where
  | literal (c : Char)
  | number (quantity : Quantity) (fill : Fill)
  | weekday (short : Bool)
  | monthName (short : Bool)
  | dayHalf (upper : Bool)
  /-- The fraction of the second with a point: as many digits as needed in groups of three. -/
  | fraction
  /-- The fraction of the second with a number of digits, with or without a point. -/
  | fixedFraction (digits : Nat) (point : Bool)
  | offset (form : OffsetForm)
  /-- The name of the zone, which for a fixed offset is the offset. -/
  | zoneName
  /-- The time by the internet profile of ISO 8601. -/
  | profile
deriving DecidableEq, Repr

/-! ## §2 Reading -/

/-- A number filled with zeros. -/
def zeros (quantity : Quantity) : List Item := [.number quantity .zero]

/-- A number filled with spaces. -/
def spaced (quantity : Quantity) : List Item := [.number quantity .space]

/-- Month, day and year of the century. -/
def monthDayYear : List Item :=
  zeros .month ++ [.literal '/'] ++ zeros .day ++ [.literal '/'] ++ zeros .yearOfCentury

/-- Hour, minute and second. -/
def clockItems (hours : Quantity) : List Item :=
  zeros hours ++ [.literal ':'] ++ zeros .minute ++ [.literal ':'] ++ zeros .second

/-- The items of a one letter specifier. -/
def specifier? : Char → Option (List Item)
  | 'A' => some [.weekday false]
  | 'B' => some [.monthName false]
  | 'C' => some (zeros .century)
  | 'D' | 'x' => some monthDayYear
  | 'F' => some (zeros .year ++ [.literal '-'] ++ zeros .month ++ [.literal '-'] ++ zeros .day)
  | 'G' => some (zeros .weekYear)
  | 'H' => some (zeros .hour)
  | 'I' => some (zeros .hour12)
  | 'M' => some (zeros .minute)
  | 'P' => some [.dayHalf false]
  | 'R' => some (zeros .hour ++ [.literal ':'] ++ zeros .minute)
  | 'S' => some (zeros .second)
  | 'T' | 'X' => some (clockItems .hour)
  | 'U' => some (zeros .weekFromSunday)
  | 'V' => some (zeros .weekOfWeekYear)
  | 'W' => some (zeros .weekFromMonday)
  | 'Y' => some (zeros .year)
  | 'Z' => some [.zoneName]
  | 'a' => some [.weekday true]
  | 'b' | 'h' => some [.monthName true]
  | 'c' =>
    some ([.weekday true, .literal ' ', .monthName true, .literal ' '] ++ spaced .day
      ++ [.literal ' '] ++ clockItems .hour ++ [.literal ' '] ++ zeros .year)
  | 'd' => some (zeros .day)
  | 'e' => some (spaced .day)
  | 'f' => some (zeros .nanos)
  | 'g' => some (zeros .weekYearOfCentury)
  | 'j' => some (zeros .ordinal)
  | 'k' => some (spaced .hour)
  | 'l' => some (spaced .hour12)
  | 'm' => some (zeros .month)
  | 'n' => some [.literal '\n']
  | 'p' => some [.dayHalf true]
  | 'q' => some [.number .quarter .none]
  | 'r' => some (clockItems .hour12 ++ [.literal ' ', .dayHalf true])
  | 's' => some [.number .timestamp .none]
  | 't' => some [.literal '\t']
  | 'u' => some [.number .weekdayFromMonday .none]
  | 'v' =>
    some (spaced .day ++ [.literal '-', .monthName true, .literal '-'] ++ zeros .year)
  | 'w' => some [.number .daysFromSunday .none]
  | 'y' => some (zeros .yearOfCentury)
  | 'z' => some [.offset .plain]
  | '+' => some [.profile]
  | '%' => some [.literal '%']
  | _ => none

/-- The items of a specifier whose fill is chosen by a flag: it must be a single number. -/
def refilled? (fill : Fill) (c : Char) : Option (List Item) :=
  match specifier? c with
  | some [.number quantity _] => some [.number quantity fill]
  | _ => none

/-- The digits that a fraction can have. -/
def fractionDigits? : Char → Option Nat
  | '3' => some 3
  | '6' => some 6
  | '9' => some 9
  | _ => none

/-- The items of a pattern; nothing when a percent sign starts no specifier. -/
def readPattern? : List Char → Option (List Item)
  | [] => some []
  | '%' :: '-' :: c :: rest => cons? (refilled? .none c) (readPattern? rest)
  | '%' :: '0' :: c :: rest => cons? (refilled? .zero c) (readPattern? rest)
  | '%' :: '_' :: c :: rest => cons? (refilled? .space c) (readPattern? rest)
  | '%' :: '#' :: 'z' :: rest => cons? (some [.offset .permissive]) (readPattern? rest)
  | '%' :: ':' :: ':' :: ':' :: 'z' :: rest => cons? (some [.offset .hours]) (readPattern? rest)
  | '%' :: ':' :: ':' :: 'z' :: rest => cons? (some [.offset .seconds]) (readPattern? rest)
  | '%' :: ':' :: 'z' :: rest => cons? (some [.offset .colon]) (readPattern? rest)
  | '%' :: '.' :: 'f' :: rest => cons? (some [.fraction]) (readPattern? rest)
  | '%' :: '.' :: d :: 'f' :: rest =>
    cons? ((fractionDigits? d).map fun n => [.fixedFraction n true]) (readPattern? rest)
  | '%' :: '3' :: 'f' :: rest => cons? (some [.fixedFraction 3 false]) (readPattern? rest)
  | '%' :: '6' :: 'f' :: rest => cons? (some [.fixedFraction 6 false]) (readPattern? rest)
  | '%' :: '9' :: 'f' :: rest => cons? (some [.fixedFraction 9 false]) (readPattern? rest)
  | '%' :: c :: rest => cons? (specifier? c) (readPattern? rest)
  | '%' :: [] => none
  | c :: rest => cons? (some [.literal c]) (readPattern? rest)
where
  /-- Items in front of others, if both were read. -/
  cons? : Option (List Item) → Option (List Item) → Option (List Item)
    | some front, some back => some (front ++ back)
    | _, _ => none

/-! ## §3 Writing -/

/-- A numeral filled up to a width. -/
def filled (fill : Fill) (width n : Nat) : List Char :=
  let digits := ofNat n
  let missing := width - digits.length
  match fill with
  | .none => digits
  | .zero => List.replicate missing '0' ++ digits
  | .space => List.replicate missing ' ' ++ digits

/-- The value and the width of a quantity; years before the first one count as zero. -/
def Quantity.measure (t : LocalTime) : Quantity → Nat × Nat
  | .year => (t.date.year.toNat, 4)
  | .century => (t.date.year.toNat / 100, 2)
  | .yearOfCentury => (t.date.year.toNat % 100, 2)
  | .weekYear => (t.weekYear.toNat, 4)
  | .weekYearOfCentury => (t.weekYear.toNat % 100, 2)
  | .quarter => ((t.date.month - 1) / 3 + 1, 1)
  | .month => (t.date.month, 2)
  | .day => (t.date.day, 2)
  | .weekFromSunday => (t.weekFromSunday, 2)
  | .weekFromMonday => (t.weekFromMonday, 2)
  | .weekOfWeekYear => (t.weekOfWeekYear, 2)
  | .daysFromSunday => (t.daysFromSunday, 1)
  | .weekdayFromMonday => (t.daysFromMonday + 1, 1)
  | .ordinal => (t.ordinal, 3)
  | .hour => (t.hour, 2)
  | .hour12 => (t.hour12, 2)
  | .minute => (t.minute, 2)
  | .second => (t.second, 2)
  | .nanos => (t.instant.nanos, 9)
  | .timestamp => (t.instant.seconds.toNat, 9)

/-- The weekdays from Sunday. -/
def weekdayNames : List String :=
  ["Sunday", "Monday", "Tuesday", "Wednesday", "Thursday", "Friday", "Saturday"]

/-- The months. -/
def monthNames : List String :=
  ["January", "February", "March", "April", "May", "June", "July", "August", "September",
   "October", "November", "December"]

/-- A name out of a list, whole or its first three letters. -/
def nameOf (names : List String) (position : Nat) (short : Bool) : List Char :=
  let name := (names[position]?.getD "").toList
  if short then name.take 3 else name

/-- The first digits of the fraction of a second. -/
def fractionText (nanos digits : Nat) : List Char :=
  (filled .zero 9 nanos).take digits

/-- The fraction of a second with a point, in as few groups of three digits as hold it. -/
def shortFraction (nanos : Nat) : List Char :=
  if nanos = 0 then []
  else if nanos % 1000000 = 0 then '.' :: fractionText nanos 3
  else if nanos % 1000 = 0 then '.' :: fractionText nanos 6
  else '.' :: fractionText nanos 9

/-- An offset in one of its forms. -/
def offsetText? (form : OffsetForm) (offset : Int) : Option (List Char) :=
  let sign := if offset < 0 then '-' else '+'
  let total := offset.natAbs
  let two := filled .zero 2
  let hours := two (total / 3600)
  let minutes := two (total / 60 % 60)
  match form with
  | .plain => some (sign :: (hours ++ minutes))
  | .colon => some (sign :: (hours ++ ':' :: minutes))
  | .seconds => some (sign :: (hours ++ ':' :: minutes ++ ':' :: two (total % 60)))
  | .hours => some (sign :: hours)
  | .permissive => none

/-- An offset with a colon. -/
def offsetWithColon (offset : Int) : List Char :=
  (offsetText? .colon offset).getD []

/-- Date, `T` and time. -/
def dateAndTime (t : LocalTime) : List Char :=
  let put := fun q : Quantity => let (n, width) := q.measure t; filled .zero width n
  put .year ++ '-' :: put .month ++ '-' :: put .day ++ 'T' :: put .hour ++ ':' :: put .minute
    ++ ':' :: put .second

/-- The text of one item. -/
def Item.write? (t : LocalTime) : Item → Option (List Char)
  | .literal c => some [c]
  | .number quantity fill =>
    let (n, width) := quantity.measure t
    some (filled fill width n)
  | .weekday short => some (nameOf weekdayNames t.daysFromSunday short)
  | .monthName short => some (nameOf monthNames (t.date.month - 1) short)
  | .dayHalf upper =>
    let half := if t.hour < 12 then "am" else "pm"
    some ((if upper then half.toUpper else half).toList)
  | .fraction => some (shortFraction t.instant.nanos)
  | .fixedFraction digits point =>
    some ((if point then ['.'] else []) ++ fractionText t.instant.nanos digits)
  | .offset form => offsetText? form t.offset
  | .zoneName => some (offsetWithColon t.offset)
  | .profile =>
    some (dateAndTime t ++ shortFraction t.instant.nanos ++ offsetWithColon t.offset)

/-- The text of a time in a pattern. -/
def write? (t : LocalTime) (items : List Item) : Option (List Char) :=
  (items.mapM (Item.write? t)).map List.flatten

/-! ## §4 ISO -/

/-- Date and time with milliseconds and the offset, `Z` for none. -/
def isoText (t : LocalTime) : List Char :=
  dateAndTime t ++ '.' :: fractionText t.instant.nanos 3
    ++ (if t.offset = 0 then ['Z'] else offsetWithColon t.offset)

end TaskFlow.Calendar
