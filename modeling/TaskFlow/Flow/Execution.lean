/-
TaskFlow.Flow.Execution — how a task hands over to the next one.
-/

namespace TaskFlow

/-- How a task hands over to the next one. -/
inductive Execution where
  /-- To its one next task. -/
  | sequential
  /-- To the next task that its decision selects. -/
  | decision
  /-- To none: the flow is complete. -/
  | finish
  /-- To none: a terminal task run for its effects. -/
  | sink
deriving DecidableEq, Repr, Inhabited

namespace Execution

/-- The name in documents and messages. -/
def name : Execution → String
  | .sequential => "sequential"
  | .decision => "decision"
  | .finish => "end"
  | .sink => "sink"

/-- The execution with a name. -/
def ofName? (text : String) : Option Execution :=
  [sequential, decision, finish, sink].find? (·.name == text)

/-- The flow is over after the task. -/
def isTerminal : Execution → Bool
  | .finish | .sink => true
  | .sequential | .decision => false

@[simp] theorem ofName?_name (e : Execution) : ofName? e.name = some e := by
  cases e <;> decide

theorem eq_name_of_ofName? {text : String} {e : Execution} (h : ofName? text = some e) :
    text = e.name := by
  have := List.find?_some h
  simpa using (beq_iff_eq.1 this).symm

end Execution

end TaskFlow
