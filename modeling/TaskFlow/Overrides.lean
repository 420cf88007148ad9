/-
TaskFlow.Overrides — routes and monitors replaced for tests.

Records lie over the loaded flows and never change them. Each belongs to one task of one flow.

  §1 Records    — `TaskOverride`, and `Overrides` by flow id and task name.
  §2 Effect     — `routeOf` and `monitorOf` look through the records at a task.
  §3 Changes    — the raw changes of the records.
  §4 Commands   — `Command` is what a test may ask for; `Overrides.apply` checks and does it.
-/
import TaskFlow.Flow.Basic

namespace TaskFlow

/-! ## §1 Records -/

/-- Where a monitor is called. -/
inductive Position where
  /-- Before the input mapping. -/
  | before
  /-- After the output mapping. -/
  | after
deriving DecidableEq, Repr

/-- The name of a position. -/
def Position.name : Position → String
  | .before => "before"
  | .after => "after"

/-- A replaced monitor. -/
inductive MonitorOverride where
  | set (route : String)
  /-- No monitor, even if the flow declares one. -/
  | cleared
deriving DecidableEq, Repr

/-- What replaces the declarations of a task; nothing stands for the declaration itself. -/
structure TaskOverride where
  route : Option String := none
  before : Option MonitorOverride := none
  after : Option MonitorOverride := none
deriving DecidableEq, Repr, Inhabited

namespace TaskOverride

/-- The replaced monitor at a position. -/
def monitor (o : TaskOverride) : Position → Option MonitorOverride
  | .before => o.before
  | .after => o.after

/-- The record with the monitor at a position replaced. -/
def withMonitor (o : TaskOverride) (position : Position) (m : MonitorOverride) : TaskOverride :=
  match position with
  | .before => { o with before := some m }
  | .after => { o with after := some m }

end TaskOverride

/-- The monitor that a task declares at a position. -/
def Task.monitor (t : Task) : Position → Option String
  | .before => t.monitorBefore
  | .after => t.monitorAfter

/-- A task of a flow. -/
abbrev TaskKey := String × String

/-- Records by flow id and task name; a key has one record at most. -/
structure Overrides where
  records : List (TaskKey × TaskOverride)
deriving DecidableEq, Repr

namespace Overrides

/-- No records. -/
def empty : Overrides := ⟨[]⟩

instance : Inhabited Overrides := ⟨empty⟩

/-- There are no records. -/
def isEmpty (o : Overrides) : Bool := o.records.isEmpty

/-- The record of a task, which is blank when there is none. -/
def record (o : Overrides) (key : TaskKey) : TaskOverride :=
  ((o.records.find? (·.1 == key)).map (·.2)).getD {}

/-! ## §2 Effect -/

/-- The route that a task is dispatched to. -/
def routeOf (o : Overrides) (flowId : String) (t : Task) : String :=
  (o.record (flowId, t.name)).route.getD t.route

/-- The monitor that is called for a task at a position. -/
def monitorOf (o : Overrides) (flowId : String) (t : Task) (position : Position) :
    Option String :=
  match (o.record (flowId, t.name)).monitor position with
  | some (.set route) => some route
  | some .cleared => none
  | none => t.monitor position

/-! ## §3 Changes -/

/-- The record of a task is dropped. -/
def dropTask (o : Overrides) (key : TaskKey) : Overrides :=
  ⟨o.records.filter (·.1 != key)⟩

/-- The records of all tasks of a flow are dropped. -/
def dropFlow (o : Overrides) (flowId : String) : Overrides :=
  ⟨o.records.filter (·.1.1 != flowId)⟩

/-- The record of a task is changed by `f`. -/
def update (o : Overrides) (key : TaskKey) (f : TaskOverride → TaskOverride) : Overrides :=
  ⟨(key, f (o.record key)) :: (o.dropTask key).records⟩

/-! ## §4 Commands -/

/-- What a test may ask of one flow. -/
inductive Command where
  | route (task : String)
  | reassign (task route : String)
  | setMonitor (task route : String) (position : Position)
  | clearMonitors (task : String)
  | resetTask (task : String)
  | reset
deriving DecidableEq, Repr

/-- What a command gives back. -/
inductive Reply where
  | done
  /-- The route of the task, or the one it had before. -/
  | route (route : String)
deriving DecidableEq, Repr

/-- A command on a loaded flow: the records after it and the reply, or an error that leaves the
records as they were. -/
def perform (o : Overrides) (f : Flow) : Command → Except Error (Overrides × Reply)
  | .route task => do
    let t ← f.task task
    .ok (o, .route (o.routeOf f.id t))
  | .reassign task route => do
    let t ← f.task task
    checkRoute route
    let replaced := o.update (f.id, t.name) fun r => { r with route := some route }
    .ok (replaced, .route (o.routeOf f.id t))
  | .setMonitor task route position => do
    let t ← f.task task
    checkRoute route
    .ok (o.update (f.id, t.name) fun r => r.withMonitor position (.set route), .done)
  | .clearMonitors task => do
    let t ← f.task task
    .ok (o.update (f.id, t.name)
      fun r => (r.withMonitor .before .cleared).withMonitor .after .cleared, .done)
  | .resetTask task => do
    let t ← f.task task
    .ok (o.dropTask (f.id, t.name), .done)
  | .reset => .ok (o.dropFlow f.id, .done)

/-- A command on a flow of the catalog. -/
def apply (o : Overrides) (c : Catalog) (flowId : String) (command : Command) :
    Overrides × Except Error Reply :=
  match c.flow flowId with
  | .error e => (o, .error e)
  | .ok f =>
    match o.perform f command with
    | .ok (next, reply) => (next, .ok reply)
    | .error e => (o, .error e)

end Overrides

end TaskFlow
