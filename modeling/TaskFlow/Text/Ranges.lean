/-
TaskFlow.Text.Ranges — classes of characters given by ranges of code points.
-/

namespace TaskFlow.Text

/-- The code point lies in one of the ranges, which stand in ascending order. -/
def inRanges (n : Nat) : List (Nat × Nat) → Bool
  | [] => false
  | (low, high) :: rest => (low ≤ n && n ≤ high) || (high < n && inRanges n rest)

end TaskFlow.Text
