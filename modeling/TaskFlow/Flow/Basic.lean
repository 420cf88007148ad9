/-
TaskFlow.Flow.Basic — loaded flows.

  §1 Flows    — a `Flow` is a definition that breaks no rule; `Flow.load` is the only way to one.
  §2 Reading  — lifetime, tasks by name.
  §3 Catalogs — `Catalog` keeps loaded flows by their ids.
-/
import TaskFlow.Flow.Definition

namespace TaskFlow

/-! ## §1 Flows -/

/-- A definition that breaks no rule. -/
structure Flow where
  definition : FlowDefinition
  valid : definition.problems = []

namespace Flow

/-- The flow of a definition, or an error that lists all broken rules. -/
def load (d : FlowDefinition) : Except Error Flow :=
  if h : d.problems = [] then .ok ⟨d, h⟩
  else .error (.flowLoad (.invalid d.id d.problems))

/-! ## §2 Reading -/

/-- The id. -/
def id (f : Flow) : String := f.definition.id

/-- The tasks in the order of their declaration. -/
def tasks (f : Flow) : List Task := f.definition.tasks

/-- The name of the task that every instance begins with. -/
def firstTask (f : Flow) : String := f.definition.firstTask

/-- The shortest lifetime of an instance in milliseconds. -/
def minTtl : Nat := 1000

/-- The declared lifetime of an instance in milliseconds, raised to the shortest one. -/
def ttl (f : Flow) : Option Nat := f.definition.ttl.map (max minTtl)

/-- The task with a name. -/
def task (f : Flow) (name : String) : Except Error Task :=
  match f.tasks.find? (·.name == name) with
  | some t => .ok t
  | none => .error (.taskNotFound f.id name)

end Flow

/-! ## §3 Catalogs -/

/-- Loaded flows by id. -/
structure Catalog where
  flows : Dictionary Flow

namespace Catalog

/-- The catalog without flows. -/
def empty : Catalog := ⟨[]⟩

instance : Inhabited Catalog := ⟨empty⟩

/-- The catalog has a flow with the id. -/
def contains (c : Catalog) (flowId : String) : Bool :=
  Dictionary.contains c.flows flowId

/-- The catalog with one more flow, whose id must be new. -/
def add (c : Catalog) (f : Flow) : Except Error Catalog :=
  if c.contains f.id then .error (.flowLoad (.alreadyLoaded f.id))
  else .ok ⟨Dictionary.insert f.id f c.flows⟩

/-- The flow with an id. -/
def flow (c : Catalog) (flowId : String) : Except Error Flow :=
  match Dictionary.get? flowId c.flows with
  | some f => .ok f
  | none => .error (.flowNotFound flowId)

/-- A task of the flow with an id. -/
def task (c : Catalog) (flowId name : String) : Except Error Task := do
  let f ← c.flow flowId
  f.task name

/-- The ids in order. -/
def ids (c : Catalog) : List String := Dictionary.keys c.flows

end Catalog

end TaskFlow
