/-
TaskFlow.Yaml.Scalar.Block — literal and folded scalars.

  §1 Headers — the indicators for chomping and indentation, up to the end of the line.
  §2 Margins — `contentMargin?` finds the indentation of the first line with content.
  §3 Reading — `readBlock` reads the lines with that indentation; `Chomping` says what becomes of
               the line breaks at the end.
-/
import TaskFlow.Yaml.Scalar.Gap

namespace TaskFlow.Yaml

open TaskFlow.Text

/-! ## §1 Headers -/

/-- What becomes of the line breaks at the end of a block scalar. -/
inductive Chomping where
  | strip
  | clip
  | keep
deriving DecidableEq, Repr

/-- The header of a block scalar: its chomping, and how much deeper than its parent it stands. -/
structure BlockHeader where
  chomping : Chomping := .clip
  depth : Option Nat := none

/-- A chomping indicator. -/
def chomping? : Char → Option Chomping
  | '+' => some .keep
  | '-' => some .strip
  | _ => none

/-- The indicators of a header, in either order, each at most once. A depth of zero is refused. -/
def readIndicators (p : Place) : List Char → Option (Part BlockHeader)
  | [] => some ⟨{}, p, []⟩
  | c :: rest =>
    match chomping? c, digit? c with
    | some chomping, _ =>
      match rest with
      | d :: tail =>
        match digit? d with
        | some 0 => none
        | some depth => some ⟨⟨chomping, some depth⟩, (p.past c).past d, tail⟩
        | none => some ⟨⟨chomping, none⟩, p.past c, rest⟩
      | [] => some ⟨⟨chomping, none⟩, p.past c, rest⟩
    | none, some 0 => none
    | none, some depth =>
      match rest with
      | d :: tail =>
        match chomping? d with
        | some chomping => some ⟨⟨chomping, some depth⟩, (p.past c).past d, tail⟩
        | none => some ⟨⟨.clip, some depth⟩, p.past c, rest⟩
      | [] => some ⟨⟨.clip, some depth⟩, p.past c, rest⟩
    | none, none => some ⟨{}, p, c :: rest⟩

/-- Blanks and a comment up to the end of the line, and over the line break. -/
def readLineEnd (inComment : Bool) (p : Place) : List Char → Option (Part Unit)
  | [] => some ⟨(), p, []⟩
  | c :: rest =>
    if isBreak c then some ⟨(), p.past c, rest⟩
    else if inComment ∨ isBlank c then readLineEnd inComment (p.past c) rest
    else if c = '#' then readLineEnd true (p.past c) rest
    else none

/-! ## §2 Margins -/

/-- The column of the first character that is no blank, or of a longer line of blanks before it;
nothing when a tab stands there. -/
def deepestColumn? (column deepest : Nat) : List Char → Option Nat
  | [] => some (max column deepest)
  | c :: rest =>
    if c = ' ' then deepestColumn? (column + 1) deepest rest
    else if c = '\t' then none
    else if isBreak c then deepestColumn? 0 (max column deepest) rest
    else some (max column deepest)

/-- The column in which the lines of a block scalar start. A given depth counts from the enclosing
collection. -/
def contentMargin? (margin : Nat) (depth : Option Nat) (text : List Char) : Option Nat :=
  match depth with
  | some n => some (margin - 1 + n)
  | none => (deepestColumn? 0 0 text).map fun column => max (max column margin) 1

/-! ## §3 Reading -/

/-- What has been read of a block scalar, last character first: the content, the line break after
its last line, the breaks of the empty lines since, and whether that last line started with a
blank. -/
structure BlockContent where
  done : List Char := []
  ending : Option Char := none
  blankLines : List Char := []
  startsBlank : Bool := false

namespace BlockContent

/-- A line that starts with `c` is added. In a folded scalar the break before it becomes a blank,
or nothing if empty lines follow the break, unless one of the two lines starts with a blank. -/
def startLine (folded : Bool) (c : Char) (b : BlockContent) : BlockContent :=
  let folds := folded && b.ending == some '\n' && !b.startsBlank && !isBlank c
  let separator :=
    if folds then (if b.blankLines.isEmpty then [' '] else b.blankLines)
    else b.blankLines ++ b.ending.toList
  ⟨c :: (separator ++ b.done), none, [], isBlank c⟩

/-- The text with the line breaks at its end chomped. -/
def text (chomping : Chomping) (b : BlockContent) : String :=
  let ending := match chomping with
    | .strip => []
    | .clip => b.ending.toList
    | .keep => b.blankLines ++ b.ending.toList
  String.ofList (ending ++ b.done).reverse

end BlockContent

/-- The lines from column `column` on. `inLine` says that the current line has begun. A tab must not
stand in the indentation. -/
def readBlock (folded : Bool) (column : Nat) (p : Place) (inLine : Bool) (b : BlockContent) :
    List Char → Option (Part BlockContent)
  | [] => some ⟨b, p, []⟩
  | c :: rest =>
    if inLine then
      if isBreak c then
        readBlock folded column (p.past c) false { b with ending := some c } rest
      else readBlock folded column (p.past c) true { b with done := c :: b.done } rest
    else if c = ' ' ∧ p.column < column then
      readBlock folded column (p.past c) false b rest
    else if c = '\t' ∧ p.column < column then none
    else if isBreak c then
      readBlock folded column (p.past c) false { b with blankLines := c :: b.blankLines } rest
    else if p.column = column then
      readBlock folded column (p.past c) true (b.startLine folded c) rest
    else some ⟨b, p, c :: rest⟩

/-- The text of a block scalar behind its indicator, inside a collection with this margin. -/
def readBlockScalar (folded : Bool) (margin : Nat) (p : Place) (text : List Char) :
    Option (Part String) := do
  let header ← readIndicators p text
  let line ← readLineEnd false header.place header.rest
  let column ← contentMargin? margin header.value.depth line.rest
  let block ← readBlock folded column line.place false {} line.rest
  some ⟨block.value.text header.value.chomping, block.place, block.rest⟩

end TaskFlow.Yaml
