/-
TaskFlow.Binary.Read — decimal text of floating point numbers, and single precision rounding.

  §1 Reading   — `Double.read?` accepts a sign, digits with an optional point, an optional exponent,
                 and the words `inf`, `infinity` and `nan` in any case.
  §2 Narrowing — `Double.narrow?` rounds to single precision and keeps the shortest decimal.
-/
import TaskFlow.Binary.Shortest
import TaskFlow.Text.Numeral

namespace TaskFlow.Binary

open TaskFlow.Text

/-! ## §1 Reading -/

/-- An optional sign and what follows it. -/
def splitSign : List Char → Bool × List Char
  | '-' :: rest => (true, rest)
  | '+' :: rest => (false, rest)
  | cs => (false, cs)

/-- The exponent part after the digits: nothing, or `e` and a signed numeral. -/
def exponent? : List Char → Option Int
  | [] => some 0
  | c :: rest =>
    if c = 'e' ∨ c = 'E' then
      let (negative, digits) := splitSign rest
      (natural? digits).map fun n => if negative then -(n : Int) else n
    else none

/-- An unsigned number: digits, an optional point with more digits, an optional exponent. There is
at least one digit before or after the point. -/
def magnitude? (cs : List Char) : Option Decimal :=
  let whole := cs.takeWhile isDigit
  let (fraction, tail) := match cs.dropWhile isDigit with
    | '.' :: rest => (rest.takeWhile isDigit, rest.dropWhile isDigit)
    | rest => ([], rest)
  match natural? (whole ++ fraction), exponent? tail with
  | some coefficient, some exponent => some ⟨coefficient, exponent - fraction.length⟩
  | _, _ => none

/-- The word after the sign in lower case. -/
def lowerWord (cs : List Char) : List Char :=
  cs.map Char.toLower

/-- The double that a text stands for, rounded to the nearest. -/
def Double.read? (cs : List Char) : Option Double :=
  let (negative, rest) := splitSign cs
  match magnitude? rest with
  | some d => some (Double.ofDecimal negative d.coefficient d.exponent)
  | none =>
    let word := lowerWord rest
    if word = "nan".toList then some .nan
    else if word = "inf".toList ∨ word = "infinity".toList then some (.infinite negative)
    else none

/-! ## §2 Narrowing -/

/-- The value rounded to single precision, as the double nearest to its shortest decimal; nothing
when it has no finite single precision value. -/
def Double.narrow? : Double → Option Double
  | .finite x =>
    let code := single.nearest x.steps (Nat.pow 2 double.scale)
    if code < single.limit then
      let d := single.shortest code
      some (Double.ofDecimal x.negative d.coefficient d.exponent)
    else none
  | _ => none

end TaskFlow.Binary
