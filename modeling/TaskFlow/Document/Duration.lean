/-
TaskFlow.Document.Duration — times as documents write them.

  §1 Units   — `TimeUnit`; a number without a unit counts seconds.
  §2 Reading — `Duration.ofText?` and `Duration.ofValue?`, in milliseconds.
-/
import TaskFlow.Text.Blank
import TaskFlow.Yaml.Value

namespace TaskFlow

open TaskFlow.Text

/-! ## §1 Units -/

/-- A unit of time. -/
inductive TimeUnit where
  | millisecond
  | second
  | minute
  | hour
deriving DecidableEq, Repr

namespace TimeUnit

/-- The milliseconds of a unit. -/
def millis : TimeUnit → Nat
  | millisecond => 1
  | second => 1000
  | minute => 60000
  | hour => 3600000

/-- The unit with a name; no name is the second. -/
def ofName? (name : List Char) : Option TimeUnit :=
  match String.ofList name with
  | "ms" => some millisecond
  | "" | "s" => some second
  | "m" => some minute
  | "h" => some hour
  | _ => none

end TimeUnit

/-! ## §2 Reading -/

namespace Duration

/-- The milliseconds of an amount with a unit, blanks around both ignored. The amount and the
milliseconds fit in 64 bits, and zero is no duration. -/
def ofText? (text : String) : Option Nat :=
  let cs := trim text.toList
  match natural? (cs.takeWhile isDigit), TimeUnit.ofName? (trim (cs.dropWhile isDigit)) with
  | some amount, some timeUnit =>
    let millis := amount * timeUnit.millis
    if amount < wordBound ∧ millis < wordBound ∧ 0 < millis then some millis else none
  | _, _ => none

/-- The milliseconds of a value: a bare natural number of 64 bits counts seconds. -/
def ofValue? : Yaml.Value → Option Nat
  | .number n => (n.toNat?.filter (0 < ·)).map (· * TimeUnit.second.millis)
  | .text s => ofText? s
  | _ => none

end Duration

end TaskFlow
