/-
TaskFlow.Proofs.Engine.Phases — what can come of a task that has begun.

The phases of a task are one action after the other, and each may be the last. `Served` lists the
seven ways through them, each with what had to happen and the progress it leaves; every fact about a
single task is a case analysis on it.

  §1 Points  — the progress after each phase, as a function of the progress at the beginning.
  §2 Served  — the ways through the phases.
  §3 Serving — `serve` takes one of them.
  §4 Left    — what every way leaves of the instance.
-/
import TaskFlow.Proofs.Engine.Actions
import TaskFlow.Proofs.Mapping.Lines

namespace TaskFlow.Run

open TaskFlow.Mapping

variable {W : Type} (r : Run W) (t : Task)

/-! ## §1 Points

Each point is given by the progress `p` with the task just begun. -/

/-- The monitor before the task has been told. -/
def briefed (p : Progress W) : Progress W := r.told t .before p

/-- The input mapping has been run. -/
def mapped (p : Progress W) : Progress W :=
  (r.briefed t p).withState (r.inputOutcome t.input (r.briefed t p)).state

/-- The route of a task, looked up now. -/
def routeNow (q : Progress W) : String :=
  (r.engine.host.overrides q.world).routeOf r.flow.id t

/-- How long a dispatch may take now. -/
def budget (q : Progress W) : Nat :=
  min (t.timeout.getD r.engine.settings.dispatchTimeout) (r.ttl - q.clock)

/-- A dispatch of the task made now, with the host after it. -/
def taskCall (draft : Draft) (q : Progress W) : Delivery W × W :=
  r.call .task (r.routeNow t q) (r.request q.inst t draft.body.root draft.headers) (r.budget t q) q

/-- The dispatch has ended; the instance is still suspended. -/
def dispatched (draft : Draft) (p : Progress W) : Progress W :=
  ((r.mapped t p).withStatus (.suspended t.name)).after (r.taskCall t draft (r.mapped t p)).1
    (r.taskCall t draft (r.mapped t p)).2

/-- The instance goes on after the dispatch. -/
def resumed (draft : Draft) (p : Progress W) : Progress W :=
  (r.dispatched t draft p).withStatus (.executing t.name)

/-- The response has been kept in the state. -/
def answered (draft : Draft) (response : Response) (p : Progress W) : Progress W :=
  (r.resumed t draft p).withState ((r.mapped t p).inst.state.keeping response)

/-- The output mapping has been run. -/
def digested (draft : Draft) (response : Response) (p : Progress W) : Progress W :=
  (r.answered t draft response p).withState
    (r.outputOutcome t t.output (r.answered t draft response p)).state

/-- The monitor after the task has been told. -/
def reported (draft : Draft) (response : Response) (p : Progress W) : Progress W :=
  r.told t .after (r.digested t draft response p)

/-! ## §2 Served -/

/-- The task was dispatched with `draft`, and `answer` is what came of it. -/
structure Answered (p : Progress W) (draft : Draft) (answer : Option (Except Error Response)) :
    Prop where
  drafted : (r.inputOutcome t.input (r.briefed t p)).result = .ok draft
  alive : (r.mapped t p).clock < r.ttl
  answer_eq : (r.taskCall t draft (r.mapped t p)).1.answer = answer

/-- The ways through the phases of a task, each with its result and the progress it leaves. -/
inductive Served (p : Progress W) : Except Error (Option Json) → Progress W → Prop
  /-- A line of the input mapping failed. -/
  | unmapped {e : Error} (hin : (r.inputOutcome t.input (r.briefed t p)).result = .error e) :
      Served p (.error e) (r.mapped t p)
  /-- Nothing was left of the lifetime. -/
  | expired {draft : Draft} (hin : (r.inputOutcome t.input (r.briefed t p)).result = .ok draft)
      (hleft : r.ttl ≤ (r.mapped t p).clock) :
      Served p (.error (.timeout (r.routeNow t (r.mapped t p)) r.ttl)) (r.mapped t p)
  /-- No answer came within the limit. -/
  | unanswered {draft : Draft} (h : r.Answered t p draft none) :
      Served p
        (.error (.timeout (r.routeNow t (r.mapped t p)) (r.budget t (r.mapped t p))))
        (r.dispatched t draft p)
  /-- The dispatch failed. -/
  | rejected {draft : Draft} {e : Error} (h : r.Answered t p draft (some (.error e))) :
      Served p (.error e) (r.dispatched t draft p)
  /-- The function answered with an error status. -/
  | refused {draft : Draft} {response : Response}
      (h : r.Answered t p draft (some (.ok response))) (hstatus : response.isError = true) :
      Served p (.error (.taskFailure response.status response.failureText)) (r.resumed t draft p)
  /-- A line of the output mapping failed. -/
  | undigested {draft : Draft} {response : Response} {e : Error}
      (h : r.Answered t p draft (some (.ok response))) (hstatus : response.isError = false)
      (hout : (r.outputOutcome t t.output (r.answered t draft response p)).result = .error e) :
      Served p (.error e) (r.digested t draft response p)
  /-- Nothing failed. -/
  | done {draft : Draft} {response : Response} {decision : Option Json}
      (h : r.Answered t p draft (some (.ok response))) (hstatus : response.isError = false)
      (hout : (r.outputOutcome t t.output (r.answered t draft response p)).result = .ok decision) :
      Served p (.ok decision) (r.reported t draft response p)

/-! ## §3 Serving -/

variable {r t}

@[simp] theorem told_inst (position : Position) (p : Progress W) :
    (r.told t position p).inst = p.inst := by
  unfold told
  split <;> rfl

@[simp] theorem mapped_status (p : Progress W) : (r.mapped t p).inst.status = p.inst.status := by
  rw [mapped, Progress.withState_inst_status, briefed, told_inst]

theorem digested_deliveries (draft : Draft) (response : Response) (p : Progress W) :
    (r.digested t draft response p).deliveries = (r.dispatched t draft p).deliveries := rfl

theorem mapped_isObject {p : Progress W} (h : p.inst.state.IsObject) :
    (r.mapped t p).inst.state.IsObject := by
  refine (mapInput_edited _ _ _ _).isObject ?_
  rwa [briefed, told_inst]

theorem exec_dispatch_of_expired {draft : Draft} {q : Progress W} (hleft : r.ttl ≤ q.clock) :
    (r.dispatch t draft).exec q = (.error (.timeout (r.routeNow t q) r.ttl), q) := by
  unfold dispatch
  rw [exec_bind_of_ok (exec_get q)]
  dsimp only
  rw [if_pos (Nat.sub_eq_zero_of_le hleft), exec_bind_of_error (exec_throw _ q)]
  rfl

/-- A dispatch with some of the lifetime left: the instance is suspended, and goes on only if an
answer comes in time. -/
theorem exec_dispatch_of_alive (draft : Draft) {q : Progress W}
    (hstatus : q.inst.status = .executing t.name) (hleft : q.clock < r.ttl) :
    (r.dispatch t draft).exec q =
      let sent := (q.withStatus (.suspended t.name)).after (r.taskCall t draft q).1
        (r.taskCall t draft q).2
      match (r.taskCall t draft q).1.answer with
      | none => (.error (.timeout (r.routeNow t q) (r.budget t q)), sent)
      | some (.error e) => (.error e, sent)
      | some (.ok response) =>
        if response.isError then
          (.error (.taskFailure response.status response.failureText),
            sent.withStatus (.executing t.name))
        else (.ok response, sent.withStatus (.executing t.name)) := by
  have hsuspend : (move Instance.suspend).exec q = (.ok (), q.withStatus (.suspended t.name)) := by
    rw [exec_move, Instance.suspend, hstatus]
    rfl
  have hdeliver : (r.deliver .task (r.routeNow t q)
      (r.request q.inst t draft.body.root draft.headers) (r.budget t q)).exec
        (q.withStatus (.suspended t.name)) =
      (.ok (r.taskCall t draft q).1.answer,
        (q.withStatus (.suspended t.name)).after (r.taskCall t draft q).1
          (r.taskCall t draft q).2) := exec_deliver ..
  unfold dispatch
  rw [exec_bind_of_ok (exec_get q)]
  dsimp only
  rw [if_neg (Nat.sub_ne_zero_of_lt hleft), exec_bind_of_ok hsuspend]
  refine (exec_bind_of_ok hdeliver _).trans ?_
  rcases (r.taskCall t draft q).1.answer with _ | (e | response)
  · rfl
  · rfl
  · refine (exec_bind_of_ok (exec_move ..) _).trans ?_
    dsimp only
    by_cases herror : response.isError = true
    · rw [if_pos herror, if_pos herror]
      rfl
    · rw [if_neg herror, if_neg herror]
      rfl

/-- What follows an answer without an error status. -/
theorem serve_served_of_ok {p : Progress W} {draft : Draft} {response : Response}
    (hanswered : r.Answered t p draft (some (.ok response))) (hstatus : response.isError = false)
    (hobj : (r.mapped t p).inst.state.IsObject) :
    let rest : Action W (Option Json) := do
      keepResponse response
      let decision ← r.mapOut t
      r.tellMonitor t .after
      pure decision
    r.Served t p (rest.exec (r.resumed t draft p)).1 (rest.exec (r.resumed t draft p)).2 := by
  obtain ⟨fields, hroot⟩ := hobj
  have hkeep : (keepResponse response).exec (r.resumed t draft p) =
      (.ok (), r.answered t draft response p) := exec_keepResponse response hroot
  dsimp only
  rw [exec_bind_of_ok hkeep, exec_bind, exec_mapOut]
  cases hout : (r.outputOutcome t t.output (r.answered t draft response p)).result with
  | error e => exact .undigested hanswered hstatus hout
  | ok decision => exact .done hanswered hstatus hout

/-- A task that has begun is served one of the ways there are. -/
theorem serve_served {p : Progress W} (hstatus : p.inst.status = .executing t.name)
    (hobj : p.inst.state.IsObject) :
    r.Served t p ((r.serve t).exec p).1 ((r.serve t).exec p).2 := by
  have hexecuting : (r.mapped t p).inst.status = .executing t.name := by
    rw [mapped_status, hstatus]
  have hmapped : (r.mapped t p).inst.state.IsObject := mapped_isObject hobj
  have hbrief : (r.tellMonitor t .before).exec p = (.ok (), r.briefed t p) := exec_tellMonitor ..
  have hmap : (r.mapIn t).exec (r.briefed t p) =
      ((r.inputOutcome t.input (r.briefed t p)).result, r.mapped t p) := exec_mapIn ..
  unfold serve
  rw [exec_bind_of_ok hbrief]
  cases hin : (r.inputOutcome t.input (r.briefed t p)).result with
  | error e =>
    rw [hin] at hmap
    rw [exec_bind_of_error hmap]
    exact .unmapped hin
  | ok draft =>
    rw [hin] at hmap
    rw [exec_bind_of_ok hmap]
    by_cases hleft : r.ttl ≤ (r.mapped t p).clock
    · rw [exec_bind_of_error (exec_dispatch_of_expired hleft)]
      exact .expired hin hleft
    · have halive : (r.mapped t p).clock < r.ttl := Nat.not_le.mp hleft
      -- from here on the answer decides
      have hdispatch := exec_dispatch_of_alive draft hexecuting halive
      cases hanswer : (r.taskCall t draft (r.mapped t p)).1.answer with
      | none =>
        rw [hanswer] at hdispatch
        rw [exec_bind_of_error hdispatch]
        exact .unanswered ⟨hin, halive, hanswer⟩
      | some answer =>
        rw [hanswer] at hdispatch
        cases answer with
        | error e =>
          rw [exec_bind_of_error hdispatch]
          exact .rejected ⟨hin, halive, hanswer⟩
        | ok response =>
          have hanswered : r.Answered t p draft (some (.ok response)) := ⟨hin, halive, hanswer⟩
          cases herror : response.isError with
          | true =>
            simp only [herror, if_true] at hdispatch
            rw [exec_bind_of_error hdispatch]
            exact .refused hanswered herror
          | false =>
            simp only [herror, if_false, Bool.false_eq_true] at hdispatch
            rw [exec_bind_of_ok hdispatch]
            exact serve_served_of_ok hanswered herror hmapped

/-! ## §4 What is left -/

namespace Served

variable {p q : Progress W} {result : Except Error (Option Json)}

/-- No phase begins a task. -/
theorem executed (h : r.Served t p result q) : q.inst.executed = p.inst.executed := by
  cases h <;> simp [mapped, briefed, dispatched, resumed, answered, digested, reported]

theorem id_eq (h : r.Served t p result q) : q.inst.id = p.inst.id := by
  cases h <;> simp [mapped, briefed, dispatched, resumed, answered, digested, reported]

/-- The task is still executing, or suspended if its dispatch did not come back. -/
theorem status (h : r.Served t p result q) (hstatus : p.inst.status = .executing t.name) :
    q.inst.status = .executing t.name ∨
      q.inst.status = .suspended t.name ∧ ∃ e, result = .error e := by
  cases h with
  | unmapped | expired =>
    exact Or.inl (by simpa [mapped, briefed] using hstatus)
  | unanswered | rejected => exact Or.inr ⟨by simp [dispatched], _, rfl⟩
  | refused | undigested | done =>
    exact Or.inl (by simp [resumed, answered, digested, reported])

theorem isObject (h : r.Served t p result q) (hobj : p.inst.state.IsObject) :
    q.inst.state.IsObject := by
  have hmapped : (r.mapped t p).inst.state.IsObject := mapped_isObject hobj
  have hdigested : ∀ draft response, (r.digested t draft response p).inst.state.IsObject := by
    intro draft response
    exact (mapOutput_edited _ _ _ _ _).isObject (Store.keeping_isObject hmapped response)
  cases h with
  | unmapped | expired | unanswered | rejected | refused => exact hmapped
  | undigested => exact hdigested _ _
  | done =>
    rw [reported, told_inst]
    exact hdigested _ _

end Served

end TaskFlow.Run
