/-
TaskFlow.Document.Basic — flow documents.

  §1 Documents  — `FlowDocument`: every part may be missing, so that a missing one can be reported
                  with its place.
  §2 Durations  — `describe` shows a value that is no duration.
  §3 Conversion — `FlowDocument.definition`.
-/
import TaskFlow.Document.Duration
import TaskFlow.Flow.Basic
import TaskFlow.Yaml.Print

namespace TaskFlow

open TaskFlow.Text

/-! ## §1 Documents -/

/-- The monitors of a task. -/
structure MonitorEntry where
  before : Option String := none
  after : Option String := none

/-- A task of a document. -/
structure TaskEntry where
  name : Option String := none
  process : Option String := none
  description : Option String := none
  execution : Option String := none
  timeout : Option Yaml.Value := none
  input : List String := []
  output : List String := []
  next : List String := []
  monitor : Option MonitorEntry := none

/-- The head of a document. -/
structure FlowHeader where
  id : Option String := none
  description : Option String := none
  ttl : Option Yaml.Value := none

/-- A flow as a document describes it. -/
structure FlowDocument where
  header : Option FlowHeader := none
  firstTask : Option String := none
  tasks : List TaskEntry := []

/-- The name of a task is its route unless it has one of its own. -/
def TaskEntry.effectiveName (t : TaskEntry) : Option String :=
  t.name <|> t.process

/-! ## §2 Durations -/

/-- A value in a message: text in quotes, anything else as a document writes it, if one can. -/
def Duration.describe : Yaml.Value → String
  | .text s => s!"'{s}'"
  | v =>
    match v.print? with
    | some text => trimmed text
    | none => "value"

/-! ## §3 Conversion -/

/-- Milliseconds are kept in 64 bits; what lies above is lost. -/
def Duration.stored (millis : Nat) : Nat := millis % wordBound

/-- The milliseconds of an optional duration. -/
def Duration.ofOptional (v : Option Yaml.Value) : Option Nat :=
  (v.bind Duration.ofValue?).map Duration.stored

/-- The task that an entry describes. -/
def TaskEntry.task (t : TaskEntry) : Except Error Task := do
  let execution ← match t.execution with
    | none => .ok .sequential
    | some name =>
      match Execution.ofName? name with
      | some execution => .ok execution
      | none => .error (.flowLoad (.unknownExecution name))
  let monitor := t.monitor.getD {}
  .ok
    { name := t.effectiveName.getD ""
      route := t.process.getD ""
      description := t.description.getD ""
      execution
      input := t.input
      output := t.output
      next := t.next
      timeout := Duration.ofOptional t.timeout
      monitorBefore := monitor.before
      monitorAfter := monitor.after }

/-- The definition that a document describes; missing texts are empty. -/
def FlowDocument.definition (d : FlowDocument) : Except Error FlowDefinition := do
  let header := d.header.getD {}
  let tasks ← d.tasks.mapM TaskEntry.task
  .ok
    { id := header.id.getD ""
      description := header.description.getD ""
      ttl := Duration.ofOptional header.ttl
      firstTask := d.firstTask.getD ""
      tasks }

end TaskFlow
