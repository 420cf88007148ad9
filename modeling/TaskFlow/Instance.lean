/-
TaskFlow.Instance — one execution of a flow.

  §1 Instances   — `Instance` owns its working state; `create` seeds it from the payload.
  §2 Transitions — each is allowed from some statuses only and leaves the instance as it was
                   otherwise.
-/
import TaskFlow.Store

namespace TaskFlow

/-! ## §1 Instances -/

/-- One execution of a flow. -/
structure Instance where
  id : String
  flowId : String
  correlationId : String
  state : Store
  /-- The tasks in the order in which they began. -/
  executed : List String := []
  status : Status := .ready

namespace Instance

/-- The state that an instance starts from: the payload as `input`, and its own ids in the model. -/
def seed (id flowId correlationId : String) (payload : Json) : Except StateFault Store :=
  Store.ofPaths
    [("input", payload), ("model.instance", .str id), ("model.cid", .str correlationId),
     ("model.flow", .str flowId)]

/-- A new instance. -/
def create (id flowId correlationId : String) (payload : Json) : Except Error Instance :=
  match seed id flowId correlationId payload with
  | .ok state => .ok { id, flowId, correlationId, state }
  | .error fault => .error (.state fault)

/-! ## §2 Transitions -/

/-- The error of a transition that the status does not allow. -/
def refuse (i : Instance) (action : Transition) : Except Error Instance :=
  .error (.transition (.illegal action i.id i.status))

/-- A task begins: the first one, or the one after a task that has ended. -/
def beginTask (i : Instance) (task : String) : Except Error Instance :=
  match i.status with
  | .ready | .executing _ =>
    .ok { i with executed := i.executed ++ [task], status := .executing task }
  | _ => i.refuse .startTask

/-- The instance waits for a dispatch. -/
def suspend (i : Instance) : Except Error Instance :=
  match i.status with
  | .executing task => .ok { i with status := .suspended task }
  | _ => i.refuse .suspend

/-- The dispatch has come back. -/
def resume (i : Instance) : Except Error Instance :=
  match i.status with
  | .suspended task => .ok { i with status := .executing task }
  | _ => i.refuse .resume

/-- The last task has ended. -/
def complete (i : Instance) : Except Error Instance :=
  match i.status with
  | .executing _ => .ok { i with status := .completed }
  | _ => i.refuse .complete

/-- The instance stops; the running task is remembered. -/
def fail (i : Instance) (reason : String) : Except Error Instance :=
  if i.status.isTerminal then i.refuse .fail
  else .ok { i with status := .failed i.status.currentTask reason }

end Instance

end TaskFlow
