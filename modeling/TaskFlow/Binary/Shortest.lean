/-
TaskFlow.Binary.Shortest — the shortest decimal that reads back.

A decimal is `coefficient * 10 ^ exponent`. The decimals that round to a magnitude form an interval
around it, whose ends belong to it when the significand is even. On each decimal grid only the two
neighbours of the magnitude can be the nearest point of the grid in that interval, so the search
walks from a coarse grid to finer ones and stops at the first grid with a hit.

  §1 Intervals — `Interval` holds the magnitude and the two ends over one denominator.
  §2 Grids     — `Interval.onGrid` gives the nearest point of one grid inside the interval.
  §3 Search    — `Format.shortest`.
-/
import TaskFlow.Binary.Double

namespace TaskFlow.Binary

/-- The number `coefficient * 10 ^ exponent`. -/
structure Decimal where
  coefficient : Nat
  exponent : Int
deriving DecidableEq, Repr

/-! ## §1 Intervals -/

/-- A magnitude `value / den` with the interval of numbers that round to it. -/
structure Interval where
  low : Nat
  value : Nat
  high : Nat
  den : Nat
  closed : Bool

/-- The interval of a code. The gap below a power of two is half the gap above it. -/
def Format.interval (f : Format) (code : Nat) : Interval :=
  let unit := Nat.pow 2 (f.shift code)
  let value := 4 * f.steps code
  let narrow := f.significand code = Nat.pow 2 f.fractionBits ∧ 0 < f.shift code
  { low := value - (if narrow then unit else 2 * unit)
    value
    high := value + 2 * unit
    den := 4 * Nat.pow 2 f.scale
    closed := f.significand code % 2 = 0 }

/-- `num / den` lies in the interval. -/
def Interval.contains (i : Interval) (num den : Nat) : Bool :=
  if i.closed then i.low * den ≤ num * i.den && num * i.den ≤ i.high * den
  else i.low * den < num * i.den && num * i.den < i.high * den

/-! ## §2 Grids -/

/-- The point of the grid of multiples of `10 ^ exponent` that is nearest to the magnitude among
those in the interval; a tie goes to the even multiple. -/
def Interval.onGrid (i : Interval) (exponent : Int) : Option Nat :=
  let up := Nat.pow 10 exponent.toNat
  let down := Nat.pow 10 (-exponent).toNat
  let num := i.value * down
  let den := i.den * up
  let below := num / den
  let above := below + 1
  let nearest := roundHalfEven num den
  let other := if nearest = below then above else below
  if i.contains (nearest * up) down then some nearest
  else if i.contains (other * up) down then some other
  else none

/-! ## §3 Search -/

/-- The first hit on the grids `10 ^ exponent`, `10 ^ (exponent - 1)`, … -/
def Interval.search (i : Interval) : Nat → Int → Decimal
  | 0, exponent => ⟨(i.onGrid exponent).getD 0, exponent⟩
  | more + 1, exponent =>
    match i.onGrid exponent with
    | some coefficient => ⟨coefficient, exponent⟩
    | none => i.search more (exponent - 1)

/-- The shortest decimal that rounds to the code, and of those the nearest to it. The search starts
above the magnitude and ends after at most twenty-four grids, more than a double needs. -/
def Format.shortest (f : Format) (code : Nat) : Decimal :=
  if code = 0 then ⟨0, 0⟩
  else
    let bits : Int := Nat.log2 (f.steps code) - f.scale
    let start := (bits + 1) * 30103 / 100000 + 1
    (f.interval code).search 24 start

end TaskFlow.Binary
