/-
TaskFlow.Flow.Record — flow definitions as values.

  §1 Executions — a name, or an object with the name as its only key and null under it.
  §2 Tasks      — `Task.ofJson?`, `Task.toJson`.
  §3 Flows      — `FlowDefinition.ofJson?`, `FlowDefinition.toJson`.
-/
import TaskFlow.Flow.Definition
import TaskFlow.Record

namespace TaskFlow

/-! ## §1 Executions -/

/-- An execution from its name. -/
def Execution.ofJson? : Json → Option Execution
  | .str name => ofName? name
  | .obj [(name, .null)] => ofName? name
  | _ => none

/-! ## §2 Tasks -/

namespace Task

/-- The names of the fields. -/
def fieldNames : List String :=
  ["name", "process", "description", "execution", "input", "output", "next", "timeout_ms",
   "monitor_before", "monitor_after"]

/-- A task from a record; name and route must be there. -/
def ofJson? (v : Json) : Option Task := do
  let fields ← Record.fields? fieldNames v
  let texts := Record.list Record.text
  let name ← Record.required fields "name" Record.text
  let route ← Record.required fields "process" Record.text
  let description ← Record.orElse fields "description" Record.text ""
  let execution ← Record.orElse fields "execution" Execution.ofJson? .sequential
  let input ← Record.orElse fields "input" texts []
  let output ← Record.orElse fields "output" texts []
  let next ← Record.orElse fields "next" texts []
  let timeout ← Record.orElse fields "timeout_ms"
    (Record.optional (Record.natural Text.wordBound)) none
  let monitorBefore ← Record.orElse fields "monitor_before" (Record.optional Record.text) none
  let monitorAfter ← Record.orElse fields "monitor_after" (Record.optional Record.text) none
  some { name, route, description, execution, input, output, next, timeout, monitorBefore,
         monitorAfter }

/-- A list of texts. -/
def texts (items : List String) : Json := .arr (items.map .str)

/-- Milliseconds, or null for none. -/
def millis (m : Option Nat) : Json := (m.map Json.ofNat).getD .null

/-- A task as a record with every field. -/
def toJson (t : Task) : Json :=
  .ofFields
    [("name", .str t.name), ("process", .str t.route), ("description", .str t.description),
     ("execution", .str t.execution.name), ("input", texts t.input), ("output", texts t.output),
     ("next", texts t.next), ("timeout_ms", millis t.timeout),
     ("monitor_before", .ofText? t.monitorBefore), ("monitor_after", .ofText? t.monitorAfter)]

end Task

/-! ## §3 Flows -/

namespace FlowDefinition

/-- The names of the fields. -/
def fieldNames : List String := ["id", "description", "ttl_ms", "first_task", "tasks"]

/-- A definition from a record; id, first task and tasks must be there. -/
def ofJson? (v : Json) : Option FlowDefinition := do
  let fields ← Record.fields? fieldNames v
  let id ← Record.required fields "id" Record.text
  let description ← Record.orElse fields "description" Record.text ""
  let ttl ← Record.orElse fields "ttl_ms" (Record.optional (Record.natural Text.wordBound)) none
  let firstTask ← Record.required fields "first_task" Record.text
  let tasks ← Record.required fields "tasks" (Record.list Task.ofJson?)
  some { id, description, ttl, firstTask, tasks }

/-- A definition as a record with every field. -/
def toJson (d : FlowDefinition) : Json :=
  .ofFields
    [("id", .str d.id), ("description", .str d.description), ("ttl_ms", Task.millis d.ttl),
     ("first_task", .str d.firstTask), ("tasks", .arr (d.tasks.map Task.toJson))]

end FlowDefinition

end TaskFlow
