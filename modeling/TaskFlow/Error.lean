/-
TaskFlow.Error — every error of the engine, its wording and its class.

Each error is a cause: what was wrong, with the data that shows it. The wording of a cause is in the
one `message` function of its type. An error that a remote function describes in its own words is
`reported` under its class.

  §1 Plugins     — `PluginError`.
  §2 State       — `StateFault`, a refused write; `TransitionFault`, a refused change of status.
  §3 Mappings    — `LineFault`, what is wrong with one line; `MappingFault`.
  §4 Definitions — `FlowProblem`, one broken rule; `LoadFault`.
  §5 Errors      — `Error`, its `message` and its `kind`.
  §6 Failures    — `FlowFailure`, an error with the flow and task it stopped.
-/
import TaskFlow.Flow.Execution
import TaskFlow.Instance.Status
import TaskFlow.Store.Access

namespace TaskFlow

open TaskFlow.Text

/-! ## §1 Plugins -/

/-- Why a plugin call gives no value. -/
inductive PluginError where
  | duplicateName (plugin : String)
  | notFound (plugin : String)
  /-- The number of arguments is not the expected one. -/
  | arity (plugin expected : String) (actual : Nat)
  | divisionByZero (plugin : String)
  /-- A whole number was needed where `found` stands. -/
  | promotion (found : String)
  /-- Any other failure of a calculation. -/
  | evaluation (plugin message : String)
  | alreadyInstalled
deriving DecidableEq, Repr

/-- The wording of a plugin error. -/
def PluginError.message : PluginError → String
  | duplicateName plugin => s!"Plugin '{plugin}' is already registered"
  | notFound plugin => s!"Plugin '{plugin}' not found"
  | arity plugin expected actual =>
    s!"Plugin '{plugin}' expects {expected} argument(s), got {natText actual}"
  | divisionByZero plugin => s!"Plugin '{plugin}' cannot divide by zero"
  | promotion found => s!"Unable to promote {found} to a whole number"
  | evaluation plugin message => s!"Plugin '{plugin}' failed: {message}"
  | alreadyInstalled => "Plugin registry is already installed"

/-! ## §2 State -/

/-- Why the working state refuses a write. -/
inductive StateFault where
  | invalidPath (path : String)
  | obstacle (path : String) (cause : Json.Obstacle)
  | reported (text : String)
deriving DecidableEq, Repr

/-- A segment alone, as messages show it. -/
def Segment.describe : Segment → String
  | .key name => name
  | .index position => s!"[{natText position}]"

/-- The wording of a refused write. -/
def StateFault.message : StateFault → String
  | invalidPath path => s!"Invalid path '{path}'"
  | obstacle path (.collision segment) =>
    s!"Cannot set '{path}': '{segment.describe}' collides with a non-container value"
  | obstacle path (.tooFar position length) =>
    s!"Cannot set '{path}': index {natText position} is too far past the end of a list of {natText length}"
  | reported text => text

/-- A change of an instance's status. -/
inductive Transition where
  | startTask
  | suspend
  | resume
  | complete
  | fail
deriving DecidableEq, Repr

/-- A transition as messages name it. -/
def Transition.describe : Transition → String
  | startTask => "start a task"
  | suspend => "suspend"
  | resume => "resume"
  | complete => "complete"
  | fail => "fail"

/-- Why an instance cannot move on. -/
inductive TransitionFault where
  | illegal (action : Transition) (instanceId : String) (status : Status)
  | noNextTask (task : String)
  | reported (text : String)
deriving DecidableEq, Repr

/-- The wording of a refused transition. -/
def TransitionFault.message : TransitionFault → String
  | illegal action instanceId status =>
    s!"Cannot {action.describe} instance {instanceId} in state {status.describe}"
  | noNextTask task => s!"task '{task}' has no next task"
  | reported text => text

/-! ## §3 Mappings -/

/-- What is wrong with a mapping line. -/
inductive LineFault where
  | noArrow
  | sideMissing
  | sameSides
  | callShape
  | pluginNameMissing
  | wholeModelSource
  | unreadable (source : String)
  | badPath (path : String)
  | unknownType (suffix : String)
  | badIndex (text : String)
  | emptySubstring
  | substringArity
  | notWhole (text : String)
  | notNumber (text : String)
  | headerNameMissing
  | wholeModelTarget
  | decisionNotAllowed
  | badOutputTarget
deriving DecidableEq, Repr

/-- The wording of a line's fault. -/
def LineFault.message : LineFault → String
  | noArrow => "missing '->'"
  | sideMissing => "both sides of '->' are required"
  | sameSides => "source and target are the same"
  | callShape => "plugin call must look like f:name(args)"
  | pluginNameMissing => "plugin name is missing"
  | wholeModelSource => "the model namespace cannot be mapped as a whole"
  | unreadable source => s!"'{source}' is not a readable source"
  | badPath path => s!"'{path}' is not a valid path"
  | unknownType suffix => s!"unknown type '{suffix}'"
  | badIndex text => s!"'{text}' is not a substring index"
  | emptySubstring => "substring end must be greater than start"
  | substringArity => "substring takes one or two indexes"
  | notWhole text => s!"'{text}' is not a whole number"
  | notNumber text => s!"'{text}' is not a number"
  | headerNameMissing => "header name is missing"
  | wholeModelTarget => "the model namespace cannot be replaced as a whole"
  | decisionNotAllowed => "'decision' is only valid in a decision task"
  | badOutputTarget => "target must be model.*, output.* or decision"

/-- Why a mapping has no result. -/
inductive MappingFault where
  | badLine (line : String) (fault : LineFault)
  /-- The decision of a task selects none of its `count` next tasks. -/
  | badDecision (task found : String) (count : Nat)
  | reported (text : String)
deriving DecidableEq, Repr

/-- The wording of a mapping fault. -/
def MappingFault.message : MappingFault → String
  | badLine line fault => s!"Invalid mapping '{line}': {fault.message}"
  | badDecision task found count =>
    s!"decision of task '{task}' selected {found}, expected a boolean or 1..={natText count}"
  | reported text => text

/-- The wording of a mapping fault as an error of its own. -/
def MappingFault.fullMessage (fault : MappingFault) : String :=
  s!"Mapping error: {fault.message}"

/-! ## §4 Definitions -/

/-- One rule that a flow definition breaks. -/
inductive FlowProblem where
  | missingId
  | noTasks
  | unnamedTask (process : String)
  | duplicateTask (task : String)
  | invalidRoute (task route : String)
  | invalidMonitor (task route : String)
  | sequentialNext (task : String) (found : Nat)
  | decisionNext (task : String) (found : Nat)
  | terminalNext (execution : Execution) (task : String)
  | unknownNext (task next : String)
  | zeroTimeout (task : String)
  | badLine (task line : String) (fault : LineFault)
  | missingStart
  | unknownStart (task : String)
  | noEndTask
deriving DecidableEq, Repr

/-- The wording of a broken rule. -/
def FlowProblem.message : FlowProblem → String
  | missingId => "flow id is required"
  | noTasks => "flow must have at least one task"
  | unnamedTask process => s!"task bound to '{process}' has no name"
  | duplicateTask task => s!"duplicate task name '{task}'"
  | invalidRoute task route => s!"task '{task}' has invalid route '{route}'"
  | invalidMonitor task route => s!"task '{task}' has invalid monitor route '{route}'"
  | sequentialNext task found =>
    s!"sequential task '{task}' must have exactly one next task, found {natText found}"
  | decisionNext task found =>
    s!"decision task '{task}' must have at least two next tasks, found {natText found}"
  | terminalNext execution task => s!"{execution.name} task '{task}' must not have next tasks"
  | unknownNext task next => s!"task '{task}' transitions to unknown task '{next}'"
  | zeroTimeout task => s!"task '{task}' has a zero timeout"
  | badLine task line fault => s!"task '{task}': {(MappingFault.badLine line fault).fullMessage}"
  | missingStart => "a start task is required"
  | unknownStart task => s!"start task '{task}' does not exist"
  | noEndTask => "flow must have at least one end task"

/-- Why a flow is not loaded. -/
inductive LoadFault where
  | invalid (flowId : String) (problems : List FlowProblem)
  | alreadyLoaded (flowId : String)
  | unknownExecution (name : String)
  | reported (text : String)
deriving DecidableEq, Repr

/-- The wording of a refused load. -/
def LoadFault.message : LoadFault → String
  | invalid flowId problems =>
    let listed := joined "; " (problems.map FlowProblem.message)
    s!"flow '{flowId}': {listed}"
  | alreadyLoaded flowId => s!"flow '{flowId}' is already loaded"
  | unknownExecution name => s!"Unknown execution type '{name}'"
  | reported text => text

/-- Why a run was cancelled. -/
inductive CancelCause where
  | beforeTask (instanceId task : String)
  | reported (text : String)
deriving DecidableEq, Repr

/-- The wording of a cancellation. -/
def CancelCause.message : CancelCause → String
  | beforeTask instanceId task => s!"instance {instanceId} cancelled before task '{task}'"
  | reported text => text

/-! ## §5 Errors -/

/-- An error of the engine. -/
inductive Error where
  | flowLoad (cause : LoadFault)
  | flowNotFound (flowId : String)
  | taskNotFound (flowId task : String)
  | routeNotFound (route : String)
  | invalidRoute (route : String)
  | plugin (cause : PluginError)
  | mapping (cause : MappingFault)
  | state (cause : StateFault)
  /-- The request did not reach the function or its answer did not come back. -/
  | dispatch (route message : String)
  /-- The function answered with an error status. -/
  | taskFailure (status : Nat) (message : String)
  | timeout (route : String) (millis : Nat)
  | cancelled (cause : CancelCause)
  | transition (cause : TransitionFault)
  | serialization (text : String)
  | other (text : String)
deriving DecidableEq, Repr

/-- The class of an error. -/
inductive ErrorKind where
  | flowLoad
  | flowNotFound
  | taskNotFound
  | routeNotFound
  | duplicateName
  | arity
  | typePromotion
  | divisionByZero
  | evaluation
  | mapping
  | stateStore
  | dispatch
  | taskFailure
  | timeout
  | cancelled
  | invalidState
  | configuration
  | other
deriving DecidableEq, Repr

/-- The name of a class. -/
def ErrorKind.name : ErrorKind → String
  | flowLoad => "FlowLoad"
  | flowNotFound => "FlowNotFound"
  | taskNotFound => "TaskNotFound"
  | routeNotFound => "RouteNotFound"
  | duplicateName => "DuplicateName"
  | arity => "Arity"
  | typePromotion => "TypePromotion"
  | divisionByZero => "DivisionByZero"
  | evaluation => "Evaluation"
  | mapping => "Mapping"
  | stateStore => "StateStore"
  | dispatch => "Dispatch"
  | taskFailure => "TaskFailure"
  | timeout => "Timeout"
  | cancelled => "Cancelled"
  | invalidState => "InvalidState"
  | configuration => "Configuration"
  | other => "Other"

/-- The class of a plugin error. -/
def PluginError.kind : PluginError → ErrorKind
  | duplicateName _ | alreadyInstalled => .duplicateName
  | arity .. => .arity
  | promotion _ => .typePromotion
  | divisionByZero _ => .divisionByZero
  | notFound _ | evaluation .. => .evaluation

namespace Error

/-- The wording of an error. -/
def message : Error → String
  | flowLoad cause => s!"Flow load error: {cause.message}"
  | flowNotFound flowId => s!"Flow not found: {flowId}"
  | taskNotFound flowId task => s!"Task '{task}' not found in flow '{flowId}'"
  | routeNotFound route => s!"Route not found: {route}"
  | invalidRoute route => s!"Invalid service name: '{route}'"
  | plugin cause => cause.message
  | mapping cause => cause.fullMessage
  | state cause => s!"State store error: {cause.message}"
  | dispatch route message => s!"Dispatch to '{route}' failed: {message}"
  | taskFailure status message => s!"Task failed with status {natText status}: {message}"
  | timeout route millis => s!"Timeout after {natText millis} ms waiting for '{route}'"
  | cancelled cause => s!"Cancelled: {cause.message}"
  | transition cause => s!"Invalid state transition: {cause.message}"
  | serialization text => s!"Serialization error: {text}"
  | other text => text

/-- The class of an error. -/
def kind : Error → ErrorKind
  | flowLoad _ => .flowLoad
  | flowNotFound _ => .flowNotFound
  | taskNotFound .. => .taskNotFound
  | routeNotFound _ => .routeNotFound
  | invalidRoute _ => .configuration
  | plugin cause => cause.kind
  | mapping _ => .mapping
  | state _ => .stateStore
  | dispatch .. => .dispatch
  | taskFailure .. => .taskFailure
  | timeout .. => .timeout
  | cancelled _ => .cancelled
  | transition _ => .invalidState
  | serialization _ | other _ => .other

end Error

/-! ## §6 Failures -/

/-- An error with the flow it stopped, and the task, if one was being run. -/
structure FlowFailure where
  flowId : String
  task : Option String
  cause : Error
deriving DecidableEq, Repr

/-- The wording of a failure. -/
def FlowFailure.message (f : FlowFailure) : String :=
  match f.task with
  | some task =>
    s!"Flow '{f.flowId}' failed at task '{task}' ({f.cause.kind.name}): {f.cause.message}"
  | none => s!"Flow '{f.flowId}' failed ({f.cause.kind.name}): {f.cause.message}"

end TaskFlow
