/-
TaskFlow.Yaml.Number — numbers as documents write them.

  §1 Numbers   — `Number` is whole or a double, infinite ones and NaN among them.
  §2 Whole     — decimal numerals without leading zeros, and those of base 16, 8 and 2.
  §3 Doubles   — decimal text, and the words for the infinities and NaN.
  §4 Printing  — `Number.print`.
-/
import TaskFlow.Binary.Read
import TaskFlow.Json.Read

namespace TaskFlow.Yaml

open TaskFlow.Text TaskFlow.Binary

/-! ## §1 Numbers -/

/-- A number of a document. -/
inductive Number where
  | whole (w : Whole)
  | real (x : Double)
deriving DecidableEq

namespace Number

/-- Two numbers are the same as keys of a map: doubles numerically, with NaN the same as itself. -/
def same : Number → Number → Bool
  | .whole a, .whole b => a == b
  | .real a, .real b => a == b || a.equals b
  | _, _ => false

/-- A number of the data model. -/
def ofJson : TaskFlow.Number → Number
  | .whole w => .whole w
  | .real x => .real (.finite x)

/-- The number as a natural number of 64 bits; a double never is one. -/
def toNat? : Number → Option Nat
  | .whole w => if 0 ≤ w.val then some w.val.toNat else none
  | .real _ => none

/-! ## §2 Whole -/

/-- The value of digits in a base of at most sixteen. -/
def digitsIn? (base : Nat) : List Char → Option Nat
  | [] => none
  | cs => cs.foldlM (fun acc c => ((Json.hexValue? c).filter (· < base)).map (base * acc + ·)) 0

/-- A numeral that starts with a zero but is not zero alone is text. -/
def isPadded (digits : List Char) : Bool :=
  1 < digits.length && digits.head? == some '0' && digits.all isDigit

/-- The natural number of an unsigned numeral. -/
def magnitude? : List Char → Option Nat
  | '0' :: 'x' :: digits => digitsIn? 16 digits
  | '0' :: 'o' :: digits => digitsIn? 8 digits
  | '0' :: 'b' :: digits => digitsIn? 2 digits
  | digits => if isPadded digits then none else natural? digits

/-- The whole number of a numeral with an optional sign. -/
def wholeNumber? : List Char → Option Int
  | '-' :: rest => (magnitude? rest).map fun n => -(n : Int)
  | '+' :: rest => (magnitude? rest).map Int.ofNat
  | cs => (magnitude? cs).map Int.ofNat

/-- Whole numbers of 128 bits are recognised as such, even where they are too large to be read. -/
def isWide (z : Int) : Bool :=
  -0x80000000000000000000000000000000 ≤ z && z < 0x100000000000000000000000000000000

/-! ## §3 Doubles -/

/-- The words for positive infinity. -/
def infinityWords : List String := [".inf", ".Inf", ".INF"]

/-- The words for NaN. -/
def nanWords : List String := [".nan", ".NaN", ".NAN"]

/-- The text after an optional plus sign; a second sign is refused. -/
def afterPlus? : List Char → Option (List Char)
  | '+' :: rest => if rest.head? = some '+' ∨ rest.head? = some '-' then none else some rest
  | cs => some cs

/-- The double of a decimal text, or one of the words. Text too large for a double is no number. -/
def double? (cs : List Char) : Option Double :=
  (afterPlus? cs).bind fun rest =>
    if String.ofList rest ∈ infinityWords then some (.infinite false)
    else if cs.head? = some '-' ∧ String.ofList (cs.drop 1) ∈ infinityWords then some (.infinite true)
    else if String.ofList cs ∈ nanWords then some .nan
    else ((Double.read? rest).bind Double.finite?).map .finite

/-! ## §4 Printing -/

/-- The text of a number. -/
def print : Number → List Char
  | .whole w => ofInt w.val
  | .real .nan => ".nan".toList
  | .real (.infinite false) => ".inf".toList
  | .real (.infinite true) => "-.inf".toList
  | .real (.finite x) => x.print documentLayout

end Number

end TaskFlow.Yaml
