/-
TaskFlow.Document.Problems — the rules that a document must obey.

  §1 Problems  — `DocumentProblem` with its code, its place in the document and its wording.
  §2 Rules     — `FlowDocument.problems`: missing parts first, then wrong values, each in the order
                 of the document.
  §3 Errors    — `DocumentError`, why a document gives no flow.
-/
import TaskFlow.Document.Basic

namespace TaskFlow

open TaskFlow.Text

/-! ## §1 Problems -/

/-- One rule that a document breaks. Tasks are counted from zero. -/
inductive DocumentProblem where
  | noFlow
  | noFlowId
  | noStart
  | noTasks
  | noRoute (task : Nat)
  | noExecution (task : Nat)
  | badTtl (value : Yaml.Value)
  | badExecution (task : Nat) (name : String)
  | badTimeout (task : Nat) (value : Yaml.Value)

namespace DocumentProblem

/-- The code of a problem. -/
def code : DocumentProblem → String
  | noFlow | noFlowId | noStart | noTasks | noRoute _ | noExecution _ =>
    "ERR_DSL_VALIDATION_MISSING_REQUIRED_FIELD"
  | badTtl _ | badTimeout .. => "ERR_DSL_VALIDATION_INVALID_DURATION"
  | badExecution .. => "ERR_DSL_VALIDATION_INVALID_EXECUTION_TYPE"

/-- The place of a problem. -/
def path : DocumentProblem → String
  | noFlow => "flow"
  | noFlowId => "flow.id"
  | noStart => "first.task"
  | noTasks => "tasks"
  | noRoute task => s!"tasks[{natText task}].process"
  | noExecution task => s!"tasks[{natText task}].execution"
  | badTtl _ => "flow.ttl"
  | badExecution task _ => s!"tasks[{natText task}].execution"
  | badTimeout task _ => s!"tasks[{natText task}].timeout"

/-- What is wrong. -/
def complaint : DocumentProblem → String
  | noFlow => "Flow section is required"
  | noFlowId => "Flow id is required"
  | noStart => "Start task is required"
  | noTasks => "At least one task is required"
  | noRoute _ => "Function route is required"
  | noExecution _ => "Execution type is required"
  | badTtl value => s!"Invalid duration {Duration.describe value}"
  | badExecution _ name =>
    s!"Execution type '{name}' must be one of sequential, decision, end or sink"
  | badTimeout _ value => s!"Invalid duration {Duration.describe value}"

/-- The wording of a problem. -/
def message (p : DocumentProblem) : String :=
  s!"{p.code}: {p.complaint} (at {p.path})"

end DocumentProblem

/-! ## §2 Rules -/

/-- A text that is missing or holds nothing but blanks. -/
def isVoid (text : Option String) : Bool :=
  (trim (text.getD "").toList).isEmpty

/-- A value is given that is no duration. -/
def isBadDuration (value : Yaml.Value) : Bool :=
  (Duration.ofValue? value).isNone

/-- A problem if the test holds. -/
def complainIf (test : Bool) (problem : DocumentProblem) : List DocumentProblem :=
  if test then [problem] else []

namespace TaskEntry

/-- The parts that a task lacks. -/
def missing (t : TaskEntry) (position : Nat) : List DocumentProblem :=
  complainIf (isVoid t.process) (.noRoute position) ++
    complainIf t.execution.isNone (.noExecution position)

/-- The values of a task that are wrong. -/
def wrong (t : TaskEntry) (position : Nat) : List DocumentProblem :=
  (t.execution.toList.flatMap fun name =>
      complainIf (Execution.ofName? name).isNone (.badExecution position name)) ++
    t.timeout.toList.flatMap fun value =>
      complainIf (isBadDuration value) (.badTimeout position value)

end TaskEntry

namespace FlowDocument

/-- What the head of a document lacks. -/
def missingHeader (d : FlowDocument) : List DocumentProblem :=
  match d.header with
  | none => [.noFlow]
  | some header => complainIf (isVoid header.id) .noFlowId

/-- What a document lacks. -/
def missing (d : FlowDocument) : List DocumentProblem :=
  d.missingHeader ++ complainIf (isVoid d.firstTask) .noStart ++
    complainIf d.tasks.isEmpty .noTasks ++
    d.tasks.zipIdx.flatMap fun (t, position) => t.missing position

/-- The values of a document that are wrong. -/
def wrong (d : FlowDocument) : List DocumentProblem :=
  ((d.header.bind (·.ttl)).toList.flatMap fun value =>
      complainIf (isBadDuration value) (.badTtl value)) ++
    d.tasks.zipIdx.flatMap fun (t, position) => t.wrong position

/-- The rules that a document breaks. -/
def problems (d : FlowDocument) : List DocumentProblem :=
  d.missing ++ d.wrong

end FlowDocument

/-! ## §3 Errors -/

/-- Why a document gives no flow. -/
inductive DocumentError where
  /-- The text is no document, or not one of a flow. -/
  | malformed
  /-- A file or a folder cannot be read. -/
  | unreadable
  | invalid (first : DocumentProblem) (more : List DocumentProblem)
  | notLoaded (cause : Error)

namespace DocumentError

/-- The problems of an invalid document. -/
def problems : DocumentError → List DocumentProblem
  | invalid first more => first :: more
  | _ => []

/-- The code of an error. -/
def code : DocumentError → String
  | malformed => "ERR_DSL_YAML_PARSE"
  | unreadable => "ERR_DSL_IO"
  | invalid first [] => first.code
  | invalid _ (_ :: _) => "ERR_DSL_VALIDATION_MULTIPLE"
  | notLoaded _ => "ERR_DSL_FLOW_LOAD"

/-- The codes of the problems. -/
def codes (e : DocumentError) : List String :=
  e.problems.map DocumentProblem.code

/-- One line of a list of problems, counted from one. -/
def listed (p : DocumentProblem × Nat) : String :=
  s!"\n  {natText (p.2 + 1)}. {p.1.message}"

/-- The wording of an error. -/
def message : DocumentError → String
  | malformed => "YAML parsing error"
  | unreadable => "Unable to read"
  | invalid first [] => s!"Validation error: {first.message}"
  | invalid first more =>
    let all := first :: more
    let lines := joined "" (all.zipIdx.map listed)
    s!"Multiple validation errors ({natText all.length} issues):{lines}"
  | notLoaded cause => cause.message

end DocumentError

/-- A document that breaks no rule. -/
def FlowDocument.check (d : FlowDocument) : Except DocumentError Unit :=
  match d.problems with
  | [] => .ok ()
  | first :: more => .error (.invalid first more)

end TaskFlow
