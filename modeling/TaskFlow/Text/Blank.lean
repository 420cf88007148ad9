/-
TaskFlow.Text.Blank — white space and trimming.

  §1 Blank characters — `isBlank`, the Unicode property White_Space.
  §2 Trimming         — `trim` drops the blanks at both ends; `trimmed` is the same on a `String`.
-/

namespace TaskFlow.Text

/-! ## §1 Blank characters -/

/-- The Unicode property White_Space. -/
def isBlank (c : Char) : Bool :=
  let n := c.toNat
  (9 ≤ n && n ≤ 13) || n == 0x20 || n == 0x85 || n == 0xA0 || n == 0x1680
    || (0x2000 ≤ n && n ≤ 0x200A) || n == 0x2028 || n == 0x2029 || n == 0x202F || n == 0x205F
    || n == 0x3000

/-! ## §2 Trimming -/

/-- The text from its first non-blank character on. -/
def trimLeft (cs : List Char) : List Char :=
  cs.dropWhile isBlank

/-- The text up to its last non-blank character. -/
def trimRight (cs : List Char) : List Char :=
  (cs.reverse.dropWhile isBlank).reverse

/-- The text without the blanks at its two ends. -/
def trim (cs : List Char) : List Char :=
  trimRight (trimLeft cs)

/-- `trim` on a `String`. -/
def trimmed (s : String) : String :=
  String.ofList (trim s.toList)

/-- Trimming only ever drops characters. -/
theorem length_trim_le (cs : List Char) : (trim cs).length ≤ cs.length := by
  have drop_le : ∀ l : List Char, (l.dropWhile isBlank).length ≤ l.length :=
    fun l => (List.dropWhile_sublist isBlank).length_le
  have h₁ := drop_le cs
  have h₂ := drop_le (cs.dropWhile isBlank).reverse
  simp only [trim, trimRight, trimLeft, List.length_reverse] at *
  omega

end TaskFlow.Text
