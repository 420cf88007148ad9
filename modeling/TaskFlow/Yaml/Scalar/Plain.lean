/-
TaskFlow.Yaml.Scalar.Plain — scalars without quotes.

  §1 Ends    — where a plain scalar ends, and what it must not hold.
  §2 Reading — `readPlain` reads up to the end and over the gap before it.
-/
import TaskFlow.Yaml.Scalar.Gap

namespace TaskFlow.Yaml

/-! ## §1 Ends -/

/-- Inside a flow collection a colon right before a mark is an error. -/
def isStrayColon (inFlow : Bool) (c : Char) (rest : List Char) : Bool :=
  inFlow && c == ':' && match rest with
    | d :: _ => isFlowMark d || d == '?'
    | [] => false

/-- A plain scalar ends before a colon with a gap after it, and inside a flow collection before a
mark of it. -/
def endsPlain (inFlow : Bool) (c : Char) (rest : List Char) : Bool :=
  (c == ':' && atGap rest) || (inFlow && isFlowMark c)

/-- After a gap a plain scalar ends before a comment, a boundary of the document, and, outside flow
collections, before a line that is not indented enough. -/
def endsAfterGap (inFlow : Bool) (margin : Nat) (gap : Gap) (p : Place) (text : List Char) : Bool :=
  gap.isOpen && (text.head? == some '#' || isBoundary p text)
    || (gap.isBroken && !inFlow && p.column < margin)

/-! ## §2 Reading -/

/-- The text of a plain scalar and whether a line break follows it. Blanks and line breaks after the
scalar are read with it. A tab must not indent a line of it. -/
def readPlain (inFlow : Bool) (margin : Nat) (p : Place) (done : List Char) (gap : Gap) :
    List Char → Option (Part (String × Bool))
  | [] => some ⟨(String.ofList done.reverse, gap.isBroken), p, []⟩
  | c :: rest =>
    if isBlank c then
      if gap.isBroken ∧ p.column < margin ∧ c = '\t' then none
      else readPlain inFlow margin (p.past c) done (gap.addBlank c) rest
    else if isBreak c then readPlain inFlow margin (p.past c) done (gap.addBreak c) rest
    else if endsAfterGap inFlow margin gap p (c :: rest) then
      some ⟨(String.ofList done.reverse, gap.isBroken), p, c :: rest⟩
    else if isStrayColon inFlow c rest then none
    else if endsPlain inFlow c rest then
      some ⟨(String.ofList done.reverse, gap.isBroken), p, c :: rest⟩
    else readPlain inFlow margin (p.past c) (c :: (gap.reversedText ++ done)) Gap.none rest

end TaskFlow.Yaml
