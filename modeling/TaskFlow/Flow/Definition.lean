/-
TaskFlow.Flow.Definition — descriptions of flows and the rules they must obey.

  §1 Descriptions — `Task` and `FlowDefinition`, as a loader produces them.
  §2 Rules        — `FlowDefinition.problems` lists every broken rule in a fixed order.
-/
import TaskFlow.Mapping.Read
import TaskFlow.Route.ServiceName

namespace TaskFlow

open TaskFlow.Text

/-! ## §1 Descriptions -/

/-- A task of a flow: the function route it calls, how its request is built and its response taken
back, and which tasks may follow. -/
structure Task where
  name : String
  route : String
  description : String := ""
  execution : Execution := .sequential
  input : List String := []
  output : List String := []
  next : List String := []
  /-- Milliseconds that one dispatch may take. -/
  timeout : Option Nat := none
  /-- Told of the state before the input mapping. -/
  monitorBefore : Option String := none
  /-- Told of the state after the output mapping. -/
  monitorAfter : Option String := none
deriving DecidableEq, Repr, Inhabited

/-- A flow as a loader describes it. -/
structure FlowDefinition where
  id : String
  description : String := ""
  /-- Milliseconds that one instance may live. -/
  ttl : Option Nat := none
  firstTask : String
  tasks : List Task
deriving DecidableEq, Repr, Inhabited

namespace FlowDefinition

/-- The names of the tasks, the empty one left out. -/
def taskNames (d : FlowDefinition) : List String :=
  (d.tasks.map Task.name).filter (· ≠ "")

end FlowDefinition

/-! ## §2 Rules -/

/-- A problem if the condition holds. -/
def problemIf (condition : Prop) [Decidable condition] (problem : FlowProblem) :
    List FlowProblem :=
  if condition then [problem] else []

/-- Every task has a name of its own. `seen` holds the names before. -/
def nameProblems (seen : List String) : List Task → List FlowProblem
  | [] => []
  | t :: rest =>
    if t.name = "" then .unnamedTask t.route :: nameProblems seen rest
    else if t.name ∈ seen then .duplicateTask t.name :: nameProblems seen rest
    else nameProblems (t.name :: seen) rest

namespace Task

/-- The monitors of a task, before and after. -/
def monitors (t : Task) : List String :=
  t.monitorBefore.toList ++ t.monitorAfter.toList

/-- Every route is a service name. -/
def routeProblems (t : Task) : List FlowProblem :=
  problemIf (isServiceName t.route = false) (.invalidRoute t.name t.route) ++
    t.monitors.flatMap fun route =>
      problemIf (isServiceName route = false) (.invalidMonitor t.name route)

/-- A sequential task has one next task, a decision task two or more, a terminal task none. -/
def countProblems (t : Task) : List FlowProblem :=
  match t.execution with
  | .sequential => problemIf (t.next.length ≠ 1) (.sequentialNext t.name t.next.length)
  | .decision => problemIf (t.next.length < 2) (.decisionNext t.name t.next.length)
  | .finish | .sink => problemIf (0 < t.next.length) (.terminalNext t.execution t.name)

/-- Every next task is one of the names. -/
def nextProblems (names : List String) (t : Task) : List FlowProblem :=
  t.next.flatMap fun next => problemIf (next ∉ names) (.unknownNext t.name next)

/-- Every line can be read. -/
def lineProblems {τ : Type} (t : Task) (read : String → Except LineFault τ) (lines : List String) :
    List FlowProblem :=
  lines.flatMap fun line =>
    match read line with
    | .ok _ => []
    | .error fault => [.badLine t.name line fault]

/-- The task chooses its successor by a decision. -/
def decides (t : Task) : Bool := t.execution == .decision

/-- The rules that a task breaks. -/
def problems (names : List String) (t : Task) : List FlowProblem :=
  t.routeProblems ++ t.countProblems ++ t.nextProblems names ++
    problemIf (t.timeout = some 0) (.zeroTimeout t.name) ++
    t.lineProblems Mapping.readInput t.input ++
    t.lineProblems (Mapping.readOutput t.decides) t.output

end Task

namespace FlowDefinition

/-- The first task is named and declared. -/
def startProblems (d : FlowDefinition) : List FlowProblem :=
  if d.firstTask = "" then [.missingStart]
  else problemIf (d.firstTask ∉ d.taskNames) (.unknownStart d.firstTask)

/-- The rules that the definition breaks, those of the whole before and after those of its tasks. -/
def problems (d : FlowDefinition) : List FlowProblem :=
  problemIf ((trim d.id.toList).isEmpty = true) .missingId ++
    problemIf (d.tasks = []) .noTasks ++
    nameProblems [] d.tasks ++
    d.tasks.flatMap (Task.problems d.taskNames) ++
    d.startProblems ++
    problemIf (∀ t ∈ d.tasks, t.execution ≠ .finish) .noEndTask

end FlowDefinition

end TaskFlow
