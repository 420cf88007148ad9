/-
TaskFlow.Plugin.Builtin.Arithmetic — whole number arithmetic.

Every argument is promoted to a whole number first. Results are exact: one that leaves the 64-bit
range is an error.

  §1 Exact steps — `within?` brings an unbounded result back into the range.
  §2 Folds       — `fold` applies an operation from left to right, stopping at the first overflow.
  §3 Plugins     — add, subtract, multiply, div, mod, increment, decrement.
-/
import TaskFlow.Plugin.Arity

namespace TaskFlow.Plugin.Arithmetic

open TaskFlow TaskFlow.Plugin

/-! ## §1 Exact steps -/

/-- The 64-bit integer with a value, if there is one. -/
def within? (z : Int) : Option Int64 :=
  if -0x8000000000000000 ≤ z ∧ z < 0x8000000000000000 then some (Int64.ofInt z) else none

/-- An operation on 64-bit integers whose result must fit. -/
def checked (op : Int → Int → Int) (a b : Int64) : Option Int64 :=
  within? (op a.toInt b.toInt)

/-- The remainder of a division toward zero, where the quotient fits. -/
def remainder (a b : Int64) : Option Int64 :=
  (checked Int.tdiv a b).bind fun _ => checked Int.tmod a b

/-! ## §2 Folds -/

/-- The fold of an operation over numbers from left to right, starting at `first`. -/
def foldFrom (op : Int64 → Int64 → Option Int64) (first : Int64) : List Int64 → Option Int64
  | [] => some first
  | n :: rest => (op first n).bind fun next => foldFrom op next rest

/-- The fold over a list that has a first number. -/
def fold (plugin : String) (op : Int64 → Int64 → Option Int64) (numbers : List Int64) :
    Except PluginError Value :=
  match numbers with
  | [] => .error (.arity plugin (Arity.atLeast 1).describe 0)
  | first :: rest =>
    match foldFrom op first rest with
    | some n => .ok (.integer n)
    | none => overflow plugin

/-- Promote every argument and fold. -/
def folding (arity : Arity) (name : String) (op : Int64 → Int64 → Option Int64) : Definition :=
  ⟨name, fun _ args => do
    arity.check name args
    let numbers ← args.mapM Value.promote
    fold name op numbers⟩

/-- Promote every argument, refuse a zero behind the first one, and fold. -/
def dividing (arity : Arity) (name : String) (op : Int64 → Int64 → Option Int64) : Definition :=
  ⟨name, fun _ args => do
    arity.check name args
    let numbers ← args.mapM Value.promote
    if numbers.tail.contains 0 then throw (.divisionByZero name)
    fold name op numbers⟩

/-! ## §3 Plugins -/

/-- The sum of all arguments. -/
def add : Definition := folding (.atLeast 1) "add" (checked (· + ·))

/-- The first argument less all others. -/
def subtract : Definition := folding (.atLeast 2) "subtract" (checked (· - ·))

/-- The product of all arguments. -/
def multiply : Definition := folding (.atLeast 1) "multiply" (checked (· * ·))

/-- Division toward zero from left to right. All divisors are checked before anything is
divided. -/
def div : Definition := dividing (.atLeast 2) "div" (checked Int.tdiv)

/-- The remainder of a division toward zero. -/
def mod : Definition := dividing (.exactly 2) "mod" remainder

/-- Every argument moved by a step. -/
def stepping (name : String) (step : Int) : Definition :=
  each name fun v => do
    let n ← v.promote
    match within? (n.toInt + step) with
    | some next => .ok (.integer next)
    | none => overflow name

/-- Every argument plus one. -/
def increment : Definition := stepping "increment" 1

/-- Every argument minus one. -/
def decrement : Definition := stepping "decrement" (-1)

/-- The plugins of this module. -/
def all : List Definition := [add, subtract, multiply, div, mod, increment, decrement]

end TaskFlow.Plugin.Arithmetic
