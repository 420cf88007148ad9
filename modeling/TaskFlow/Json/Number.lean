/-
TaskFlow.Json.Number — the numbers of the data model.

A number is whole or a finite double. The two never meet: `1` is whole, `1.0` is a double.

  §1 Whole numbers — `Whole` runs from `-2 ^ 63` to `2 ^ 64 - 1`.
  §2 Numbers       — `Number` and its readings as a 64-bit integer and as a double.
-/
import TaskFlow.Binary.Layout

namespace TaskFlow

open TaskFlow.Binary

/-! ## §1 Whole numbers -/

/-- A whole number that a number of the data model can hold. -/
structure Whole where
  val : Int
  lower : -0x8000000000000000 ≤ val
  upper : val < 0x10000000000000000
deriving DecidableEq

namespace Whole

/-- The whole number `z`, if it is in range. -/
def ofInt? (z : Int) : Option Whole :=
  if h : -0x8000000000000000 ≤ z ∧ z < 0x10000000000000000 then some ⟨z, h.1, h.2⟩ else none

/-- A signed 64-bit integer. -/
def ofInt64 (n : Int64) : Whole :=
  ⟨n.toInt, by have := n.le_toInt; omega, by have := n.toInt_lt; omega⟩

/-- The number as a signed 64-bit integer, if it is one. -/
def toInt64? (w : Whole) : Option Int64 :=
  if w.val < 0x8000000000000000 then some (Int64.ofInt w.val) else none

theorem ofInt64_ofInt {w : Whole} (h : w.val < 0x8000000000000000) :
    ofInt64 (Int64.ofInt w.val) = w := by
  have htoInt : (Int64.ofInt w.val).toInt = w.val := Int64.toInt_ofInt_of_le w.lower h
  cases w
  simpa [ofInt64] using htoInt

theorem toInt64?_ofInt64 (n : Int64) : (ofInt64 n).toInt64? = some n := by
  have hupper : (ofInt64 n).val < 0x8000000000000000 := n.toInt_lt
  rw [toInt64?, if_pos hupper]
  exact congrArg some (Int64.ofInt_toInt n)

end Whole

instance : Inhabited Whole := ⟨⟨0, by decide, by decide⟩⟩

/-! ## §2 Numbers -/

/-- A number of the data model. -/
inductive Number where
  | whole (w : Whole)
  | real (x : Finite)
deriving DecidableEq, Inhabited

namespace Number

/-- The number as a signed 64-bit integer; a double never is one. -/
def toInt64? : Number → Option Int64
  | .whole w => w.toInt64?
  | .real _ => none

/-- The number as a double, rounded to the nearest. -/
def toDouble : Number → Double
  | .whole w => Double.ofInt w.val
  | .real x => .finite x

/-- The number as a natural number below `2 ^ 64`; a double never is one. -/
def toNat? : Number → Option Nat
  | .whole w => if 0 ≤ w.val then some w.val.toNat else none
  | .real _ => none

/-- The text of the number in JSON. -/
def print : Number → List Char
  | .whole w => Text.ofInt w.val
  | .real x => x.print jsonLayout

end Number

end TaskFlow
