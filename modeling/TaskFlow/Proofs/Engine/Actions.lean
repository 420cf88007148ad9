/-
TaskFlow.Proofs.Engine.Actions — what each action of a run does to the progress.

An action is opened once, here. Every later proof rewrites with the equation of the action, which
names the new progress (`withStatus`, `withState`, `after`, …) instead of spelling out its fields.

  §1 Progress   — the changes that actions make besides calls.
  §2 Sequencing — actions one after the other.
  §3 Actions    — one equation for each action of a step.
-/
import Mathlib.Tactic.Simps.Basic
import TaskFlow.Engine.Run
import TaskFlow.Proofs.Store.Space

namespace TaskFlow

open TaskFlow.Mapping

variable {W : Type} {α β : Type}

/-! ## §1 Progress -/

namespace Progress

/-- The progress with the status of the instance replaced. -/
@[simps] def withStatus (p : Progress W) (status : Status) : Progress W :=
  { p with inst := { p.inst with status } }

/-- The progress with the state of the instance replaced. -/
@[simps] def withState (p : Progress W) (state : Store) : Progress W :=
  { p with inst := { p.inst with state } }

/-- The progress with a task begun. -/
@[simps] def begun (p : Progress W) (task : String) : Progress W :=
  { p with
    inst := { p.inst with executed := p.inst.executed ++ [task], status := .executing task } }

end Progress

/-- The state with a response where output mappings read it. -/
def Store.keeping (s : Store) (response : Response) : Store :=
  match s.root with
  | .obj fields =>
    ⟨.obj (Dictionary.insert "header" (headersJson response.headers)
      (Dictionary.insert "status" (.ofNat response.status)
        (Dictionary.insert "result" response.body fields)))⟩
  | _ => s

theorem Store.keeping_isObject {s : Store} (h : s.IsObject) (response : Response) :
    (s.keeping response).IsObject := by
  obtain ⟨fields, hroot⟩ := h
  rw [keeping, hroot]
  exact ⟨_, rfl⟩

namespace Run

/-! ## §2 Sequencing -/

/-- The second action starts where the first one ended, unless the first one failed. -/
theorem exec_bind (x : Action W α) (f : α → Action W β) (p : Progress W) :
    Action.exec (x >>= f) p =
      match x.exec p with
      | (.ok a, q) => (f a).exec q
      | (.error e, q) => (.error e, q) := by
  show (ExceptT.bindCont f (x p).1) (x p).2 = _
  unfold Action.exec ExceptT.run StateT.run
  rcases x p with ⟨_ | _, q⟩ <;> rfl

theorem exec_bind_of_ok {x : Action W α} {p q : Progress W} {a : α} (h : x.exec p = (.ok a, q))
    (f : α → Action W β) : Action.exec (x >>= f) p = (f a).exec q := by
  rw [exec_bind, h]

theorem exec_bind_of_error {x : Action W α} {p q : Progress W} {e : Error}
    (h : x.exec p = (.error e, q)) (f : α → Action W β) :
    Action.exec (x >>= f) p = (.error e, q) := by
  rw [exec_bind, h]

@[simp] theorem exec_get (p : Progress W) :
    Action.exec (get : Action W (Progress W)) p = (.ok p, p) := rfl

@[simp] theorem exec_throw (e : Error) (p : Progress W) :
    Action.exec (throw e : Action W α) p = (.error e, p) := rfl

@[simp] theorem exec_lift (x : Except Error α) (p : Progress W) :
    Action.exec (liftM x : Action W α) p = (x, p) := by
  cases x <;> rfl

/-! ## §3 Actions -/

theorem exec_checkCancelled (r : Run W) (task : String) (p : Progress W) :
    (r.checkCancelled task).exec p =
      if r.engine.host.cancelled p.inst.executed.length p.world then
        (.error (.cancelled (.beforeTask p.inst.id task)), p)
      else (.ok (), p) := by
  unfold checkCancelled
  rw [exec_bind_of_ok (exec_get p)]
  split <;> rfl

theorem exec_move (transition : Instance → Except Error Instance) (p : Progress W) :
    (move transition).exec p =
      match transition p.inst with
      | .ok inst => (.ok (), { p with inst })
      | .error e => (.error e, p) := by
  unfold move
  rw [exec_bind_of_ok (exec_get p)]
  cases transition p.inst <;> rfl

@[simp] theorem exec_deliver (r : Run W) (purpose : Purpose) (route : String) (request : Request)
    (limit : Nat) (p : Progress W) :
    (r.deliver purpose route request limit).exec p =
      (.ok (r.call purpose route request limit p).1.answer,
        p.after (r.call purpose route request limit p).1
          (r.call purpose route request limit p).2) := rfl

@[simp] theorem exec_tellMonitor (r : Run W) (t : Task) (position : Position) (p : Progress W) :
    (r.tellMonitor t position).exec p = (.ok (), r.told t position p) := rfl

@[simp] theorem exec_takeOver (outcome : Outcome α) (p : Progress W) :
    (takeOver outcome).exec p = (outcome.result, p.withState outcome.state) := by
  unfold takeOver
  rcases outcome with ⟨state, _ | _⟩ <;> rfl

@[simp] theorem exec_mapIn (r : Run W) (t : Task) (p : Progress W) :
    (r.mapIn t).exec p =
      ((r.inputOutcome t.input p).result, p.withState (r.inputOutcome t.input p).state) := by
  unfold mapIn
  rw [exec_bind_of_ok (exec_get p), exec_takeOver]

@[simp] theorem exec_mapOut (r : Run W) (t : Task) (p : Progress W) :
    (r.mapOut t).exec p =
      ((r.outputOutcome t t.output p).result,
        p.withState (r.outputOutcome t t.output p).state) := by
  unfold mapOut
  rw [exec_bind_of_ok (exec_get p), exec_takeOver]

theorem exec_store (path : String) (value : Json) (p : Progress W) :
    (store path value).exec p =
      ((written (p.inst.state.set path value) ()).result,
        p.withState (written (p.inst.state.set path value) ()).state) := by
  unfold store
  rw [exec_bind_of_ok (exec_get p), exec_takeOver]

/-- A write under a key of an object cannot fail. -/
theorem exec_store_key {name : String} (hname : Path.read? name = some [.key name]) (value : Json)
    {p : Progress W} {fields : Dictionary Json} (h : p.inst.state.root = .obj fields) :
    (store name value).exec p =
      (.ok (), p.withState ⟨.obj (Dictionary.insert name value fields)⟩) := by
  rw [exec_store]
  simp [Store.set, hname, h, Json.write, Json.asFields?, written]

/-- Three writes under keys of an object cannot fail. -/
theorem exec_keepResponse (response : Response) {p : Progress W} {fields : Dictionary Json}
    (h : p.inst.state.root = .obj fields) :
    (keepResponse response).exec p = (.ok (), p.withState (p.inst.state.keeping response)) := by
  unfold keepResponse
  rw [exec_bind_of_ok (exec_store_key rfl _ h), exec_bind_of_ok (exec_store_key rfl _ rfl),
    exec_store_key rfl _ rfl, Store.keeping, h]
  rfl

end Run

end TaskFlow
