/-
TaskFlow.Instance.Status — where a flow instance stands.

  §1 Statuses — `Status` and the task it is busy with.
  §2 Wording  — `Status.describe`, as messages about refused transitions show it.
-/
import TaskFlow.Text.Literal

namespace TaskFlow

open TaskFlow.Text

/-! ## §1 Statuses -/

/-- Where a flow instance stands. -/
inductive Status where
  /-- No task has begun. -/
  | ready
  | executing (task : String)
  /-- The dispatch of the task is in flight. -/
  | suspended (task : String)
  | completed
  /-- Stopped by an error; `task` was running, if any. -/
  | failed (task : Option String) (reason : String)
deriving DecidableEq, Repr

namespace Status

/-- No further transition is possible. -/
def isTerminal : Status → Bool
  | .completed | .failed .. => true
  | _ => false

/-- The task that is executing or suspended. -/
def currentTask : Status → Option String
  | .executing task | .suspended task => some task
  | _ => none

/-! ## §2 Wording -/

/-- An optional text in a message. -/
def describeTask : Option String → String
  | none => "None"
  | some task => s!"Some({literal task})"

/-- The status as messages show it. -/
def describe : Status → String
  | .ready => "Ready"
  | .executing task => s!"Executing({literal task})"
  | .suspended task => s!"Suspended({literal task})"
  | .completed => "Completed"
  | .failed task reason =>
    s!"Failed \x7b task: {describeTask task}, reason: {literal reason} \x7d"

end Status

end TaskFlow
