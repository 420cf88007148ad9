/-
TaskFlow.Yaml.Scalar.Gap — what stands between two pieces of one scalar.

  §1 Styles — the five ways to write a scalar.
  §2 Gaps   — blanks on one line stay; line breaks fold: one becomes a blank, more lose the first.
-/
import TaskFlow.Yaml.Character

namespace TaskFlow.Yaml

/-! ## §1 Styles -/

/-- How a scalar is written. -/
inductive Style where
  | plain
  | singleQuoted
  | doubleQuoted
  | literal
  | folded
deriving DecidableEq, Repr

/-! ## §2 Gaps -/

/-- What stands between two pieces of one scalar, last character first. -/
inductive Gap where
  /-- Blanks on one line. -/
  | blanks (seen : List Char)
  /-- A first line break, nothing if it was escaped, and the further ones. -/
  | lines (first : Option Char) (more : List Char)
deriving DecidableEq, Repr

namespace Gap

/-- No gap. -/
def none : Gap := .blanks []

/-- The gap reaches over a line break. -/
def isBroken : Gap → Bool
  | .blanks _ => false
  | .lines .. => true

/-- There is a gap. -/
def isOpen : Gap → Bool
  | .blanks [] => false
  | _ => true

/-- The gap with one more blank; blanks around line breaks are lost. -/
def addBlank (c : Char) : Gap → Gap
  | .blanks seen => .blanks (c :: seen)
  | .lines first more => .lines first more

/-- The gap with one more line break; blanks around line breaks are lost. -/
def addBreak (c : Char) : Gap → Gap
  | .blanks _ => .lines (some c) []
  | .lines first more => .lines first (c :: more)

/-- What the gap adds to the scalar, last character first. -/
def reversedText : Gap → List Char
  | .blanks seen => seen
  | .lines (some '\n') [] => [' ']
  | .lines (some '\n') more => more
  | .lines first more => more ++ first.toList

end Gap

end TaskFlow.Yaml
