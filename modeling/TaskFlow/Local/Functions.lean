/-
TaskFlow.Local.Functions — functions served in this process.

A route table binds routes to functions. A function is the echo that every table starts with, or a
script that says for each of its calls what happens, with the time it takes.

  §1 Scripts — `Reaction` is what happens in one call, `Script` a list of them.
  §2 Tables  — `RouteTable` binds service names to functions.
  §3 Worlds  — `World` is a route table with the calls counted, the overrides and the cancellation
               of the current run; `World.dispatch` serves a call.
-/
import TaskFlow.Engine.Run

namespace TaskFlow.Local

open TaskFlow TaskFlow.Text

/-! ## §1 Scripts -/

/-- What a scripted function does in one call. -/
inductive Reaction where
  /-- Answer with the body of the request. -/
  | echo
  /-- Answer with the whole request as a record. -/
  | showRequest
  | respond (response : Response)
  | fail (error : Error)
  /-- Crash with a text. -/
  | crash (text : String)
  /-- Never answer. -/
  | hang
  /-- Cancel the current run if it can be cancelled, then answer like `echo`. -/
  | cancel

/-- A reaction that takes some milliseconds. -/
structure Behavior where
  reaction : Reaction
  delay : Nat := 0

/-- The behaviors of a function call after call; the last one repeats. -/
abbrev Script := List Behavior

/-- The behavior of the call after `count` others. -/
def behaviorAt (script : Script) (count : Nat) : Option Behavior :=
  script[min count (script.length - 1)]?

/-- A function. -/
inductive Function where
  /-- Answer with the body and the headers of the request. -/
  | passThrough
  | scripted (script : Script)

/-- The function is a script. -/
def Function.isScripted : Function → Bool
  | .passThrough => false
  | .scripted _ => true

/-! ## §2 Tables -/

/-- The functions by route. -/
abbrev RouteTable := Dictionary Function

namespace RouteTable

/-- The route of the echo that every table starts with. -/
def echoRoute : String := "no.op"

/-- The table with the echo alone. -/
def initial : RouteTable := [(echoRoute, .passThrough)]

/-- The table with a function at a route, which must be a service name. -/
def register (table : RouteTable) (route : String) (function : Function) :
    Except Error RouteTable := do
  checkRoute route
  .ok (Dictionary.insert route function table)

/-- The table as messages show it. -/
def describe (table : RouteTable) : String :=
  let listed := joined ", " ((Dictionary.keys table).map literal)
  s!"LocalDispatcher \x7b routes: [{listed}] \x7d"

end RouteTable

/-! ## §3 Worlds -/

/-- The functions with all that they and their callers can change. -/
structure World where
  table : RouteTable := RouteTable.initial
  overrides : Overrides := Overrides.empty
  /-- How often each scripted route was called. -/
  counts : Dictionary Nat := []
  /-- The current run can be cancelled by a function. -/
  cancellable : Bool := false
  /-- The current run has been cancelled. -/
  cancelled : Bool := false

namespace World

/-- The calls of a route so far. -/
def count (w : World) (route : String) : Nat :=
  (Dictionary.get? route w.counts).getD 0

/-- The world with one more call of a route. -/
def counted (w : World) (route : String) : World :=
  { w with counts := Dictionary.insert route (w.count route + 1) w.counts }

/-- What a crash of a function amounts to for its caller. -/
def crashError (route : String) (number : Nat) (text : String) : Error :=
  .dispatch route s!"task {natText number} panicked with message {literal text}"

/-- A behavior as a call. -/
def react (w : World) (route : String) (request : Request) (behavior : Behavior) : Call World :=
  let plain := fun answer : Except Error Response =>
    { delay := some behavior.delay, answer, answered := w, abandoned := w : Call World }
  match behavior.reaction with
  | .echo => plain (.ok (.ok request.body))
  | .showRequest => plain (.ok (.ok request.toJson))
  | .respond response => plain (.ok response)
  | .fail error => plain (.error error)
  | .crash text => plain (.error (crashError route (w.count route) text))
  | .hang => { plain (.ok (.ok .null)) with delay := none }
  | .cancel =>
    { plain (.ok (.ok request.body)) with
      answered := { w with cancelled := w.cancelled || w.cancellable } }

/-- A call of a route. That no function is served there is known at once; a function does not get to
start when there is no time to wait for it. -/
def dispatch (w : World) (route : String) (request : Request) (limit : Nat) : Call World :=
  let settled := fun (delay : Option Nat) (answer : Except Error Response) =>
    { delay, answer, answered := w, abandoned := w : Call World }
  match Dictionary.get? route w.table with
  | none => settled (some 0) (.error (.routeNotFound route))
  | some function =>
    if limit = 0 then settled none (.ok (.ok .null))
    else match function with
      | .passThrough =>
        settled (some 0)
          (.ok { status := Response.statusOk, body := request.body, headers := request.headers })
      | .scripted script =>
        match behaviorAt script (w.count route) with
        | some behavior => (w.counted route).react route request behavior
        | none => settled (some 0) (.ok (.ok .null))

/-- The world as the surroundings of a run. -/
def host : Host World :=
  { dispatch := World.dispatch
    cancelled := fun _ w => w.cancelled
    overrides := World.overrides }

/-- The call reached a scripted function. -/
def isServed (w : World) (delivery : Delivery World) : Bool :=
  0 < delivery.limit && ((Dictionary.get? delivery.route w.table).map Function.isScripted).getD false

end World

end TaskFlow.Local
