/-
TaskFlow.Engine.Run — running an instance of a flow from its first task to a terminal one.

Time is counted in milliseconds from the start of the run and passes only while a call is awaited.

  §1 Progress   — `Progress` is all that changes during a run, with every call in order.
  §2 Calls      — `call` is one call of a route; `told` sends a monitor the state.
  §3 Steps      — the phases of a task in their order: `serve`, and `runTask` around it.
  §4 Runs       — `advance` takes steps until the run has ended; `Engine.run` starts and ends it.
-/
import TaskFlow.Engine.Host
import TaskFlow.Instance
import TaskFlow.Mapping.Apply
import TaskFlow.Settings.Engine

namespace TaskFlow

open TaskFlow.Mapping

/-! ## §1 Progress -/

/-- Why a route is called. -/
inductive Purpose where
  | monitor (position : Position)
  | task
deriving DecidableEq, Repr

/-- One call of a route during a run. -/
structure Delivery (W : Type) where
  purpose : Purpose
  route : String
  request : Request
  /-- The host when the call was made. -/
  world : W
  /-- When the call was made. -/
  sent : Nat
  /-- How long the run was willing to wait. -/
  limit : Nat
  /-- When the answer came or the call was given up. -/
  settled : Nat
  /-- The answer; nothing when the call was given up. -/
  answer : Option (Except Error Response)

/-- Where a run stands. -/
inductive Stage where
  /-- About to begin a task. -/
  | next (task : String)
  | completed
  | failed (failure : FlowFailure)

/-- All that changes during a run. -/
structure Progress (W : Type) where
  inst : Instance
  /-- Milliseconds since the start. -/
  clock : Nat
  world : W
  deliveries : List (Delivery W)
  stage : Stage

/-- The progress after a call that left the host in a new state. -/
def Progress.after {W : Type} (p : Progress W) (delivery : Delivery W) (world : W) : Progress W :=
  { p with world, clock := delivery.settled, deliveries := p.deliveries ++ [delivery] }

namespace Progress

variable {W : Type} (p : Progress W) (delivery : Delivery W) (world : W)

@[simp] theorem after_inst : (p.after delivery world).inst = p.inst := rfl
@[simp] theorem after_clock : (p.after delivery world).clock = delivery.settled := rfl
@[simp] theorem after_world : (p.after delivery world).world = world := rfl
@[simp] theorem after_stage : (p.after delivery world).stage = p.stage := rfl
@[simp] theorem after_deliveries :
    (p.after delivery world).deliveries = p.deliveries ++ [delivery] := rfl

end Progress

/-- What a run works with. -/
structure Engine (W : Type) where
  plugins : Plugin.Registry
  settings : EngineSettings
  host : Host W
  /-- The time at which runs start. -/
  epoch : Calendar.Instant

/-- What stays the same during a run. -/
structure Run (W : Type) where
  engine : Engine W
  flow : Flow
  supply : Supply

/-- A part of a step: it changes the progress and may fail. -/
abbrev Action (W α : Type) := ExceptT Error (StateM (Progress W)) α

/-- What an action gives and the progress it leaves. -/
def Action.exec {W α : Type} (x : Action W α) (p : Progress W) : Except Error α × Progress W :=
  x.run.run p

namespace Run

variable {W : Type}

/-- Milliseconds that the instance may live. -/
def ttl (r : Run W) : Nat := r.flow.ttl.getD r.engine.settings.flowTtl

/-- What plugins draw on, in the `n`-th mapping of the run. -/
def ambient (r : Run W) (p : Progress W) (n : Nat) : Plugin.Ambient :=
  { now := r.engine.epoch.addMillis p.clock, supply := r.supply.branch n }

/-! ## §2 Calls -/

/-- A request of the instance on behalf of a task. -/
def request (r : Run W) (i : Instance) (t : Task) (body : Json) (headers : Dictionary String) :
    Request :=
  { body, headers, correlationId := i.correlationId, flowId := r.flow.id, taskName := t.name,
    instanceId := i.id }

/-- Call a route now and wait up to a limit: the call on record, and the host afterwards. -/
def call (r : Run W) (purpose : Purpose) (route : String) (request : Request) (limit : Nat)
    (p : Progress W) : Delivery W × W :=
  let awaited := (r.engine.host.dispatch p.world route request limit).await limit
  let delivery : Delivery W :=
    { purpose, route, request, world := p.world, sent := p.clock, limit,
      settled := p.clock + awaited.waited, answer := awaited.answer }
  (delivery, awaited.world)

/-- Call a route and wait up to a limit for the answer. -/
def deliver (r : Run W) (purpose : Purpose) (route : String) (request : Request) (limit : Nat) :
    Action W (Option (Except Error Response)) := do
  let p ← get
  let (delivery, world) := r.call purpose route request limit p
  set (p.after delivery world)
  pure delivery.answer

/-- What a monitor is told. -/
def snapshot (r : Run W) (i : Instance) (t : Task) (position : Position) : Json :=
  .ofFields
    [("flow_id", .str r.flow.id), ("task", .str t.name), ("position", .str position.name),
     ("state", i.state.root)]

/-- The progress once the monitor of a position, if there is one, has been sent the state. What
becomes of the call does not matter. -/
def told (r : Run W) (t : Task) (position : Position) (p : Progress W) : Progress W :=
  match (r.engine.host.overrides p.world).monitorOf r.flow.id t position with
  | none => p
  | some route =>
    let body := r.snapshot p.inst t position
    let (delivery, world) := r.call (.monitor position) route (r.request p.inst t body [])
      r.engine.settings.monitorTimeout p
    p.after delivery world

/-- Tell the monitor of a position. -/
def tellMonitor (r : Run W) (t : Task) (position : Position) : Action W Unit :=
  modify (r.told t position)

/-! ## §3 Steps -/

/-- Stop if the run has been cancelled. -/
def checkCancelled (r : Run W) (task : String) : Action W Unit := do
  let p ← get
  if r.engine.host.cancelled p.inst.executed.length p.world then
    throw (.cancelled (.beforeTask p.inst.id task))

/-- Change the status of the instance. -/
def move (transition : Instance → Except Error Instance) : Action W Unit := do
  let p ← get
  match transition p.inst with
  | .ok inst => set { p with inst }
  | .error e => throw e

/-- Take over the state that a mapping left, and its result. -/
def takeOver {α : Type} (outcome : Outcome α) : Action W α := do
  modify fun p => { p with inst := { p.inst with state := outcome.state } }
  match outcome.result with
  | .ok made => pure made
  | .error e => throw e

/-- What some input lines of the task that has begun make of the state. -/
def inputOutcome (r : Run W) (lines : List String) (p : Progress W) : Outcome Draft :=
  mapInput r.engine.plugins (r.ambient p (2 * p.inst.executed.length)) lines p.inst.state

/-- The input mapping of a task. -/
def mapIn (r : Run W) (t : Task) : Action W Draft := do
  let p ← get
  takeOver (r.inputOutcome t.input p)

/-- What some output lines of the task that has begun make of the state; only a decision task may
decide. -/
def outputOutcome (r : Run W) (t : Task) (lines : List String) (p : Progress W) :
    Outcome (Option Json) :=
  mapOutput r.engine.plugins (r.ambient p (2 * p.inst.executed.length + 1)) t.decides lines
    p.inst.state

/-- The output mapping of a task. -/
def mapOut (r : Run W) (t : Task) : Action W (Option Json) := do
  let p ← get
  takeOver (r.outputOutcome t t.output p)

/-- Dispatch the task to its route. It may take as long as it or the settings allow, within what is
left of the instance's lifetime; when nothing is left it is not dispatched. -/
def dispatch (r : Run W) (t : Task) (draft : Draft) : Action W Response := do
  let p ← get
  let route := (r.engine.host.overrides p.world).routeOf r.flow.id t
  let remaining := r.ttl - p.clock
  if remaining = 0 then throw (.timeout route r.ttl)
  let budget := min (t.timeout.getD r.engine.settings.dispatchTimeout) remaining
  move Instance.suspend
  let answer ← r.deliver .task route (r.request p.inst t draft.body.root draft.headers) budget
  match answer with
  | none => throw (.timeout route budget)
  | some (.error e) => throw e
  | some (.ok response) =>
    move Instance.resume
    if response.isError then throw (.taskFailure response.status response.failureText)
    pure response

/-- Write one element of the state. -/
def store (path : String) (value : Json) : Action W Unit := do
  let p ← get
  takeOver (written (p.inst.state.set path value) ())

/-- Keep a response where output mappings read it. -/
def keepResponse (response : Response) : Action W Unit := do
  store "result" response.body
  store "status" (.ofNat response.status)
  store "header" (headersJson response.headers)

/-- The position of the next task that a decision selects: `true` the first, `false` the second, a
whole number counts from one. -/
def selected? (count : Nat) : Json → Option Nat
  | .bool true => some 0
  | .bool false => some 1
  | .num n => (n.toNat?.filter fun k => 1 ≤ k && k ≤ count).map (· - 1)
  | _ => none

/-- A decision as messages show it. -/
def describeDecision : Option Json → String
  | none => "nothing"
  | some v => v.text

/-- The next task that a decision selects. -/
def select (t : Task) (decision : Option Json) : Except Error String :=
  match (decision.bind (selected? t.next.length)).bind fun i => t.next[i]? with
  | some next => .ok next
  | none => .error (.mapping (.badDecision t.name (describeDecision decision) t.next.length))

/-- The task that follows, nothing after a terminal one. -/
def successor (t : Task) (decision : Option Json) : Except Error (Option String) :=
  match t.execution with
  | .sequential =>
    match t.next.head? with
    | some next => .ok (some next)
    | none => .error (.transition (.noNextTask t.name))
  | .decision => (select t decision).map some
  | .finish | .sink => .ok none

/-- All phases of a task that has begun, in their order; its decision. -/
def serve (r : Run W) (t : Task) : Action W (Option Json) := do
  r.tellMonitor t .before
  let draft ← r.mapIn t
  let response ← r.dispatch t draft
  keepResponse response
  let decision ← r.mapOut t
  r.tellMonitor t .after
  pure decision

/-- A task from its beginning to its end; the task that follows. -/
def runTask (r : Run W) (task : String) : Action W (Option String) := do
  checkCancelled r task
  let t ← (r.flow.task task : Except Error Task)
  move (·.beginTask task)
  let decision ← r.serve t
  (successor t decision : Except Error (Option String))

/-! ## §4 Runs -/

/-- The progress with the run ended by an error at a task. -/
def stop (r : Run W) (task : String) (cause : Error) (p : Progress W) : Progress W :=
  let inst := match p.inst.fail cause.message with
    | .ok failed => failed
    | .error _ => p.inst
  { p with inst, stage := .failed ⟨r.flow.id, some task, cause⟩ }

/-- The progress with the run complete after a task. -/
def finish (r : Run W) (task : String) (p : Progress W) : Progress W :=
  match p.inst.complete with
  | .ok inst => { p with inst, stage := .completed }
  | .error e => { p with stage := .failed ⟨r.flow.id, some task, e⟩ }

/-- One step: the task that the run is about to begin. A run that has ended stays as it is. -/
def step (r : Run W) (p : Progress W) : Progress W :=
  match p.stage with
  | .next task =>
    match (r.runTask task).exec p with
    | (.ok (some next), after) => { after with stage := .next next }
    | (.ok none, after) => r.finish task after
    | (.error e, after) => r.stop task e after
  | _ => p

/-- Up to `n` steps. -/
def advance (r : Run W) : Nat → Progress W → Progress W
  | 0, p => p
  | n + 1, p =>
    match p.stage with
    | .next _ => advance r n (r.step p)
    | _ => p

/-- The progress before the first task. -/
def start (r : Run W) (inst : Instance) (world : W) : Progress W :=
  { inst, clock := 0, world, deliveries := [], stage := .next r.flow.firstTask }

end Run

/-- The result of a completed run. -/
structure FlowOutcome where
  instanceId : String
  flowId : String
  correlationId : String
  /-- The `output` element of the state, null when nothing was written there. -/
  output : Json
  state : Json
  executed : List String
  /-- Nanoseconds from start to completion. -/
  elapsed : Nat
deriving DecidableEq

/-- How a run ended. -/
inductive Ending where
  | completed (outcome : FlowOutcome)
  | failed (failure : FlowFailure)
  /-- Still going when the patience was used up. -/
  | unfinished
deriving DecidableEq

/-- The outcome of a completed instance. -/
def Instance.outcome (i : Instance) (clock : Nat) : FlowOutcome :=
  { instanceId := i.id
    flowId := i.flowId
    correlationId := i.correlationId
    output := (i.state.get? "output").getD .null
    state := i.state.root
    executed := i.executed
    elapsed := clock * 1000000 }

/-- How a run stands, seen as an ending. -/
def Progress.ending {W : Type} (p : Progress W) : Ending :=
  match p.stage with
  | .completed => .completed (p.inst.outcome p.clock)
  | .failed failure => .failed failure
  | .next _ => .unfinished

/-- A finished run: its ending, the calls it made and the host as it left it. -/
structure Report (W : Type) where
  ending : Ending
  deliveries : List (Delivery W)
  world : W

/-- How a run stands, seen as a report. -/
def Progress.report {W : Type} (p : Progress W) : Report W :=
  ⟨p.ending, p.deliveries, p.world⟩

namespace Engine

variable {W : Type}

/-- The order for one run. -/
structure Order where
  flowId : String
  payload : Json
  /-- Drawn from the supply when there is none. -/
  correlationId : Option String := none

/-- What stays the same during the run of a flow. -/
def runOf (e : Engine W) (flow : Flow) (supply : Supply) : Run W :=
  ⟨e, flow, supply.branch 2⟩

/-- A new instance of a flow for an order. -/
def instanceOf (flow : Flow) (order : Order) (supply : Supply) : Except Error Instance :=
  Instance.create (supply.branch 1).uuid flow.id
    (order.correlationId.getD (supply.branch 0).hexId) order.payload

/-- Run an instance of a loaded flow. `patience` bounds the number of tasks; the lifetime of the
instance bounds it too, as long as calls take time. -/
def runFlow (e : Engine W) (flow : Flow) (order : Order) (supply : Supply) (patience : Nat)
    (world : W) : Report W :=
  match instanceOf flow order supply with
  | .error cause => ⟨.failed ⟨order.flowId, none, cause⟩, [], world⟩
  | .ok inst =>
    let r := e.runOf flow supply
    (r.advance patience (r.start inst world)).report

/-- Run an instance of a flow of the catalog. -/
def run (e : Engine W) (catalog : Catalog) (order : Order) (supply : Supply) (patience : Nat)
    (world : W) : Report W :=
  match catalog.flow order.flowId with
  | .error cause => ⟨.failed ⟨order.flowId, none, cause⟩, [], world⟩
  | .ok flow => e.runFlow flow order supply patience world

end Engine

end TaskFlow
