/-
TaskFlow.Store.Path — paths into the working state.

A path is a list of segments, each the key of an object or the index of a list. Its text joins keys
by dots and puts each index in brackets behind the key it belongs to: `orders[2].id`.

  §1 Segments — `Segment`, `Path`.
  §2 Reading  — `Path.read?`: between dots a non-empty key without `[`, then bracketed indexes.
  §3 Writing  — `Path.print`.
-/
import TaskFlow.Text.Blank
import TaskFlow.Text.Cut
import TaskFlow.Text.Numeral

namespace TaskFlow

open TaskFlow.Text

/-! ## §1 Segments -/

/-- One step of a path. -/
inductive Segment where
  | key (name : String)
  | index (position : Nat)
deriving DecidableEq, Repr

/-- A path into a value of the data model. -/
abbrev Path := List Segment

namespace Path

/-! ## §2 Reading -/

/-- The index inside a pair of brackets; blanks around it and a plus sign are accepted. -/
def index? (inside : List Char) : Option Nat :=
  unsigned? wordBound (trim inside)

/-- The bracketed indexes behind a key. Inside a bracket, `inside` holds what was read of it so
far, last character first. -/
def readIndexes (inside : Option (List Char)) : List Char → Option (List Nat)
  | [] => if inside.isNone then some [] else none
  | c :: rest =>
    match inside with
    | none => if c = '[' then readIndexes (some []) rest else none
    | some read =>
      if c = ']' then do
        let position ← index? read.reverse
        let others ← readIndexes none rest
        some (position :: others)
      else readIndexes (some (c :: read)) rest

/-- The segments of one part between dots. -/
def readPart (part : List Char) : Option Path :=
  let name := part.takeWhile (· ≠ '[')
  if name.isEmpty then none
  else do
    let indexes ← readIndexes none (part.dropWhile (· ≠ '['))
    some (.key (String.ofList name) :: indexes.map .index)

/-- The segments of all parts in order. -/
def readParts : List (List Char) → Option Path
  | [] => some []
  | part :: parts => do
    let head ← readPart part
    let tail ← readParts parts
    some (head ++ tail)

/-- The path that a text spells. -/
def read? (text : String) : Option Path :=
  readParts (splitOn '.' text.toList)

/-- The text spells a path. -/
def isValid (text : String) : Bool :=
  (read? text).isSome

/-! ## §3 Writing -/

/-- The text of the segments behind the first one. -/
def printTail : Path → List Char
  | [] => []
  | .key name :: rest => '.' :: (name.toList ++ printTail rest)
  | .index position :: rest => '[' :: (ofNat position ++ ']' :: printTail rest)

/-- The text of a path that starts with a key. -/
def print : Path → List Char
  | .key name :: rest => name.toList ++ printTail rest
  | path => printTail path

end Path

end TaskFlow
