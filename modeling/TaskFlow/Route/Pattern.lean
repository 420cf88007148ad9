/-
TaskFlow.Route.Pattern — regular patterns over characters.

  §1 Patterns    — `Pattern`, and `Pattern.Matches`, the texts that a pattern stands for.
  §2 Derivatives — `nullable` and `derivative`; `accepts` reads a text one character at a time.
-/

namespace TaskFlow

/-! ## §1 Patterns -/

/-- A regular pattern. -/
inductive Pattern where
  /-- No text. -/
  | nothing
  /-- The empty text. -/
  | blank
  /-- One character from one of the ranges. -/
  | oneOf (ranges : List (Char × Char))
  | seq (first second : Pattern)
  | alt (left right : Pattern)
  /-- Any number of repetitions. -/
  | star (body : Pattern)
deriving Repr

namespace Pattern

/-- The character lies in one of the ranges. -/
def inClass (ranges : List (Char × Char)) (c : Char) : Bool :=
  ranges.any fun (low, high) => decide (low ≤ c ∧ c ≤ high)

/-- The texts that a pattern stands for. -/
inductive Matches : Pattern → List Char → Prop where
  | blank : Matches .blank []
  | oneOf {ranges : List (Char × Char)} {c : Char} (h : inClass ranges c = true) :
      Matches (.oneOf ranges) [c]
  | seq {p q : Pattern} {s t : List Char} (hp : Matches p s) (hq : Matches q t) :
      Matches (.seq p q) (s ++ t)
  | altLeft {p q : Pattern} {s : List Char} (h : Matches p s) : Matches (.alt p q) s
  | altRight {p q : Pattern} {s : List Char} (h : Matches q s) : Matches (.alt p q) s
  | starNil {p : Pattern} : Matches (.star p) []
  | starCons {p : Pattern} {s t : List Char} (hp : Matches p s) (hs : Matches (.star p) t) :
      Matches (.star p) (s ++ t)

/-- One or more repetitions. -/
def plus (p : Pattern) : Pattern := .seq p (.star p)

/-! ## §2 Derivatives -/

/-- The pattern stands for the empty text too. -/
def nullable : Pattern → Bool
  | nothing => false
  | blank => true
  | oneOf _ => false
  | seq p q => p.nullable && q.nullable
  | alt p q => p.nullable || q.nullable
  | star _ => true

/-- `seq` that drops what is impossible and what is blank. -/
def joinSeq : Pattern → Pattern → Pattern
  | .nothing, _ => .nothing
  | .blank, q => q
  | p, q => .seq p q

/-- `alt` that drops what is impossible. -/
def joinAlt : Pattern → Pattern → Pattern
  | .nothing, q => q
  | p, .nothing => p
  | p, q => .alt p q

/-- The pattern of what may follow a first character `c`. -/
def derivative (c : Char) : Pattern → Pattern
  | nothing => .nothing
  | blank => .nothing
  | oneOf ranges => if inClass ranges c then .blank else .nothing
  | seq p q =>
    if p.nullable then joinAlt (joinSeq (p.derivative c) q) (q.derivative c)
    else joinSeq (p.derivative c) q
  | alt p q => joinAlt (p.derivative c) (q.derivative c)
  | star p => joinSeq (p.derivative c) (.star p)

/-- The pattern stands for the text. -/
def accepts : Pattern → List Char → Bool
  | p, [] => p.nullable
  | p, c :: rest => (p.derivative c).accepts rest

end Pattern

end TaskFlow
