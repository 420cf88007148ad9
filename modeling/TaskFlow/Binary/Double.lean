/-
TaskFlow.Binary.Double — double precision numbers.

  §1 Values      — `Finite` is a sign and a magnitude code below the limit; `Double` adds the
                   infinities and the value that is not a number.
  §2 Conversion  — from a ratio, a whole number and a decimal; to a whole number.
  §3 Comparison  — `equals` is numeric equality: a value that is not a number equals nothing, and
                   the two zeros are equal.
-/
import TaskFlow.Binary.Format

namespace TaskFlow.Binary

/-! ## §1 Values -/

/-- A finite double. -/
structure Finite where
  negative : Bool
  code : Nat
  bounded : code < double.limit
deriving DecidableEq

/-- A double. -/
inductive Double where
  | nan
  | infinite (negative : Bool)
  | finite (x : Finite)
deriving DecidableEq

namespace Finite

/-- Zero, with its sign. -/
def zero (negative : Bool) : Finite := ⟨negative, 0, by decide⟩

/-- The magnitude in units of `2 ^ -1074`. -/
def steps (x : Finite) : Nat := double.steps x.code

end Finite

instance : Inhabited Finite := ⟨Finite.zero false⟩

instance : Inhabited Double := ⟨.finite default⟩

/-! ## §2 Conversion -/

namespace Double

/-- The double with a sign and a magnitude code; a code past the limit is an infinity. -/
def ofCode (negative : Bool) (code : Nat) : Double :=
  if h : code < double.limit then .finite ⟨negative, code, h⟩ else .infinite negative

/-- The double nearest to the ratio `num / den` with the given sign. -/
def ofRatio (negative : Bool) (num den : Nat) : Double :=
  ofCode negative (double.nearest num den)

/-- The double nearest to a whole number. -/
def ofInt (z : Int) : Double :=
  ofRatio (decide (z < 0)) z.natAbs 1

/-- The finite value, if it is one. -/
def finite? : Double → Option Finite
  | .finite x => some x
  | _ => none

/-- The number of decimal digits of a natural number, zero for zero. -/
def digitCount (n : Nat) : Nat :=
  if n = 0 then 0 else digitCount (n / 10) + 1

/-- The double nearest to `coefficient * 10 ^ exponent`. Exponents that lie outside every range of
interest are settled without building the power. -/
def ofDecimal (negative : Bool) (coefficient : Nat) (exponent : Int) : Double :=
  let top := exponent + digitCount coefficient
  if coefficient = 0 ∨ top < -400 then .finite (Finite.zero negative)
  else if 400 < top then .infinite negative
  else if 0 ≤ exponent then ofRatio negative (coefficient * Nat.pow 10 exponent.toNat) 1
  else ofRatio negative coefficient (Nat.pow 10 (-exponent).toNat)

end Double

/-- The whole part, rounded toward zero. -/
def Finite.truncate (x : Finite) : Int :=
  let whole := x.steps / Nat.pow 2 double.scale
  if x.negative then -(whole : Int) else whole

/-- `z` moved into the range from `lo` to `hi`. -/
def clamp (lo hi z : Int) : Int :=
  max lo (min hi z)

/-- The nearest 64-bit integer toward zero; values outside the range go to its ends, and a value
that is not a number goes to zero. -/
def Double.saturate : Double → Int
  | .nan => 0
  | .infinite negative => if negative then -0x8000000000000000 else 0x7FFFFFFFFFFFFFFF
  | .finite x => clamp (-0x8000000000000000) 0x7FFFFFFFFFFFFFFF x.truncate

/-- The value lies between `-2 ^ 63` and `2 ^ 63`, both ends included. -/
def Finite.withinLong (x : Finite) : Bool :=
  x.steps ≤ Nat.pow 2 (63 + double.scale)

/-! ## §3 Comparison -/

/-- Numeric equality. -/
def Double.equals : Double → Double → Bool
  | .nan, _ => false
  | _, .nan => false
  | .infinite a, .infinite b => a == b
  | .finite x, .finite y => (x.code == y.code) && (x.negative == y.negative || x.code == 0)
  | _, _ => false

end TaskFlow.Binary
