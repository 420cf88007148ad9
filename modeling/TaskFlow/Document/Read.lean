/-
TaskFlow.Document.Read — reading flow documents.

  §1 Documents — from the tree of a text, and from a value of the data model.
  §2 Flows     — `readDefinition` and `readFlow`: read, check, convert, load.
-/
import TaskFlow.Document.Problems
import TaskFlow.Record
import TaskFlow.Yaml.Record

namespace TaskFlow

/-! ## §1 Documents -/

namespace MonitorEntry

/-- The names of the fields. -/
def fieldNames : List String := ["before", "after"]

open Yaml.Decoding in
/-- The monitors in a tree. -/
def ofTree (tree : Yaml.Tree) (node : Yaml.Node) : Yaml.Decoding MonitorEntry := do
  let fs ← fields tree fieldNames node
  let before ← orElse fs "before" (optional tree (text tree)) none
  let after ← orElse fs "after" (optional tree (text tree)) none
  pure { before, after }

/-- Monitors from a record whose fields all have defaults. -/
def ofJson? (v : Json) : Option MonitorEntry := do
  let fields ← Record.fields? fieldNames v
  let before ← Record.orElse fields "before" (Record.optional Record.text) none
  let after ← Record.orElse fields "after" (Record.optional Record.text) none
  some { before, after }

end MonitorEntry

namespace TaskEntry

/-- The names of the fields. -/
def fieldNames : List String :=
  ["name", "process", "description", "execution", "timeout", "input", "output", "next", "monitor"]

/-- The collections around the timeout of a task: the document, its tasks and the task. -/
def timeoutDepth : Nat := 3

open Yaml.Decoding in
/-- A task in a tree. -/
def ofTree (tree : Yaml.Tree) (node : Yaml.Node) : Yaml.Decoding TaskEntry := do
  let fs ← fields tree fieldNames node
  let textField := fun name => orElse fs name (optional tree (text tree)) none
  let textsField := fun name => orElse fs name (list tree (text tree)) []
  let name ← textField "name"
  let process ← textField "process"
  let description ← textField "description"
  let execution ← textField "execution"
  let timeout ← orElse fs "timeout" (optional tree (value tree (deepest - timeoutDepth))) none
  let input ← textsField "input"
  let output ← textsField "output"
  let next ← textsField "next"
  let monitor ← orElse fs "monitor" (optional tree (MonitorEntry.ofTree tree)) none
  pure { name, process, description, execution, timeout, input, output, next, monitor }

/-- A task from a record whose fields all have defaults. -/
def ofJson? (v : Json) : Option TaskEntry := do
  let fields ← Record.fields? fieldNames v
  let textField := fun name => Record.orElse fields name (Record.optional Record.text) none
  let textsField := fun name => Record.orElse fields name (Record.list Record.text) []
  let name ← textField "name"
  let process ← textField "process"
  let description ← textField "description"
  let execution ← textField "execution"
  let timeout ← Record.orElse fields "timeout" (Record.optional Record.any) none
  let input ← textsField "input"
  let output ← textsField "output"
  let next ← textsField "next"
  let monitor ← Record.orElse fields "monitor" (Record.optional MonitorEntry.ofJson?) none
  some
    { name, process, description, execution, timeout := timeout.map Yaml.Value.ofJson, input, output,
      next, monitor }

end TaskEntry

namespace FlowHeader

/-- The names of the fields. -/
def fieldNames : List String := ["id", "description", "ttl"]

/-- The collections around the lifetime of a flow: the document and its head. -/
def ttlDepth : Nat := 2

open Yaml.Decoding in
/-- A head in a tree. -/
def ofTree (tree : Yaml.Tree) (node : Yaml.Node) : Yaml.Decoding FlowHeader := do
  let fs ← fields tree fieldNames node
  let id ← orElse fs "id" (optional tree (text tree)) none
  let description ← orElse fs "description" (optional tree (text tree)) none
  let ttl ← orElse fs "ttl" (optional tree (value tree (deepest - ttlDepth))) none
  pure { id, description, ttl }

/-- A head from a record whose fields all have defaults. -/
def ofJson? (v : Json) : Option FlowHeader := do
  let fields ← Record.fields? fieldNames v
  let id ← Record.orElse fields "id" (Record.optional Record.text) none
  let description ← Record.orElse fields "description" (Record.optional Record.text) none
  let ttl ← Record.orElse fields "ttl" (Record.optional Record.any) none
  some { id, description, ttl := ttl.map Yaml.Value.ofJson }

end FlowHeader

namespace FlowDocument

/-- The names of the fields. -/
def fieldNames : List String := ["flow", "first.task", "tasks"]

open Yaml.Decoding in
/-- A document in a tree. -/
def ofTree (tree : Yaml.Tree) (node : Yaml.Node) : Yaml.Decoding FlowDocument := do
  let fs ← fields tree fieldNames node
  let header ← orElse fs "flow" (optional tree (FlowHeader.ofTree tree)) none
  let firstTask ← orElse fs "first.task" (optional tree (text tree)) none
  let tasks ← orElse fs "tasks" (list tree (TaskEntry.ofTree tree)) []
  pure { header, firstTask, tasks }

/-- The document in a text. -/
def read? (text : String) : Option FlowDocument :=
  (Yaml.tree? text).bind fun tree => Yaml.Decoding.run tree (ofTree tree)

/-- A document from a record whose fields all have defaults. -/
def ofJson? (v : Json) : Option FlowDocument := do
  let fields ← Record.fields? fieldNames v
  let header ← Record.orElse fields "flow" (Record.optional FlowHeader.ofJson?) none
  let firstTask ← Record.orElse fields "first.task" (Record.optional Record.text) none
  let tasks ← Record.orElse fields "tasks" (Record.list TaskEntry.ofJson?) []
  some { header, firstTask, tasks }

/-! ## §2 Flows -/

/-- The definition in the text of a document that breaks no rule. -/
def readDefinition (text : String) : Except DocumentError FlowDefinition := do
  match read? text with
  | none => .error .malformed
  | some d => do
    d.check
    match d.definition with
    | .ok definition => .ok definition
    | .error cause => .error (.notLoaded cause)

/-- The flow in the text of a document. -/
def readFlow (text : String) : Except DocumentError Flow := do
  let definition ← readDefinition text
  match Flow.load definition with
  | .ok f => .ok f
  | .error cause => .error (.notLoaded cause)

end FlowDocument

end TaskFlow
