/-
TaskFlow.Local.Rehearsal — trying flows out against local functions.

A rehearsal holds loaded flows, settings and a world of local functions, and takes orders one after
the other: runs, direct calls, changes of the route table and of the overrides.

  §1 Rehearsals — `Rehearsal` and its engine.
  §2 Orders     — `report`, `run`, `runMany`, `call`, `register`, `unregister`, `override`.
-/
import TaskFlow.Local.Functions
import TaskFlow.Plugin.Builtin

namespace TaskFlow.Local

open TaskFlow

/-! ## §1 Rehearsals -/

/-- Loaded flows, settings and a world of local functions. -/
structure Rehearsal where
  catalog : Catalog := Catalog.empty
  settings : EngineSettings := {}
  world : World := {}
  plugins : Plugin.Registry := Plugin.Registry.builtin
  /-- The time at which every run starts. -/
  epoch : Calendar.Instant
  supply : Supply
  /-- The most tasks that one run may begin. -/
  patience : Nat

namespace Rehearsal

/-- The engine that runs the flows. -/
def engine (r : Rehearsal) : Engine World :=
  ⟨r.plugins, r.settings, World.host, r.epoch⟩

/-- The rehearsal with the next identifiers. -/
def renewed (r : Rehearsal) (world : World) : Rehearsal :=
  { r with world, supply := r.supply.branch 1 }

/-! ## §2 Orders -/

/-- Whether a run can be cancelled by a function, and whether it is cancelled before it starts. -/
structure Cancellation where
  possible : Bool := false
  atOnce : Bool := false

/-- The calls among the deliveries that reached scripted functions. -/
def served (r : Rehearsal) (deliveries : List (Delivery World)) : List (String × Request) :=
  (deliveries.filter r.world.isServed).map fun d => (d.route, d.request)

/-- The report on the run of one instance. -/
def report (r : Rehearsal) (order : Engine.Order) (cancellation : Cancellation) : Report World :=
  let world :=
    { r.world with cancellable := cancellation.possible, cancelled := cancellation.atOnce }
  r.engine.run r.catalog order (r.supply.branch 0) r.patience world

/-- Run one instance: how it ended and the calls of scripted functions. -/
def run (r : Rehearsal) (order : Engine.Order) (cancellation : Cancellation) :
    Rehearsal × Ending × List (String × Request) :=
  let report := r.report order cancellation
  (r.renewed report.world, report.ending, r.served report.deliveries)

/-- Run several instances one after the other. -/
def runMany (r : Rehearsal) : List Engine.Order → Rehearsal × List Ending
  | [] => (r, [])
  | order :: rest =>
    let (next, ending, _) := r.run order {}
    let (last, endings) := next.runMany rest
    (last, ending :: endings)

/-- Call a route directly, without a limit; nothing when it is never answered. -/
def call (r : Rehearsal) (route : String) (request : Request) :
    Rehearsal × Option (Except Error Response) × List (String × Request) :=
  let limit := Text.wordBound
  let awaited := (r.world.dispatch route request limit).await limit
  let delivery : Delivery World :=
    { purpose := .task, route, request, world := r.world, sent := 0, limit,
      settled := awaited.waited, answer := awaited.answer }
  ({ r with world := awaited.world }, awaited.answer, r.served [delivery])

/-- Serve a function at a route. -/
def register (r : Rehearsal) (route : String) (function : Function) : Except Error Rehearsal := do
  let table ← r.world.table.register route function
  .ok { r with world := { r.world with table } }

/-- Serve no function at a route; whether there was one. -/
def unregister (r : Rehearsal) (route : String) : Rehearsal × Bool :=
  let table := Dictionary.erase route r.world.table
  ({ r with world := { r.world with table } }, Dictionary.contains r.world.table route)

/-- A command on the overrides of a flow. -/
def override (r : Rehearsal) (flowId : String) (command : Overrides.Command) :
    Rehearsal × Except Error Overrides.Reply :=
  let (overrides, reply) := r.world.overrides.apply r.catalog flowId command
  ({ r with world := { r.world with overrides } }, reply)

end Rehearsal

end TaskFlow.Local
