/-
TaskFlow.Proofs.Engine.Visits — a run as the list of the tasks it visits.

Each step of a run visits one task, unless the run is cancelled before it. `visits` lists them in
order, and a run stands where its last visit left it (`advance_standing`): what is known of every
visit, and of a visit and the one after it, is known of the run.

  §1 Visits      — `Visit`, `visits`, and where a visit leaves the run.
  §2 Sane        — the invariant that ties the stage to the status of the instance.
  §3 Steps       — a step visits a task, or ends the run, or has nothing to do.
  §4 Conclusions — what a visit leaves of the run is sane again.
  §5 Runs        — `advance` against `visits`.
  §6 Starts      — an order opens a sane run.
-/
import Mathlib.Data.List.Chain
import TaskFlow.Proofs.Engine.Handover
import TaskFlow.Proofs.Engine.Phases

namespace TaskFlow

variable {W : Type}

/-! ## §1 Visits -/

/-- A task that a run has begun, and what came of it. -/
structure Visit (W : Type) where
  task : Task
  /-- The progress about to begin the task. -/
  arrived : Progress W
  /-- The decision of the task, or what failed. -/
  result : Except Error (Option Json)
  /-- The progress after the last phase of the task. -/
  left : Progress W

namespace Visit

/-- The progress with the task just begun. -/
def begun (v : Visit W) : Progress W := v.arrived.begun v.task.name

/-- The task that follows, nothing when the flow is over, or what failed. -/
def conclusion (v : Visit W) : Except Error (Option String) :=
  v.result.bind (Run.successor v.task)

end Visit

namespace Run

variable (r : Run W)

def visit (t : Task) (p : Progress W) : Visit W :=
  ⟨t, p, ((r.serve t).exec (p.begun t.name)).1, ((r.serve t).exec (p.begun t.name)).2⟩

/-- The next step is cancelled. -/
def cancels (p : Progress W) : Bool :=
  r.engine.host.cancelled p.inst.executed.length p.world

/-- The visit that the next step makes. -/
def visit? (p : Progress W) : Option (Visit W) :=
  match p.stage with
  | .next name =>
    if r.cancels p then none
    else match r.flow.task name with
      | .ok t => some (r.visit t p)
      | .error _ => none
  | _ => none

/-- The visits of up to `n` steps. -/
def visits : Nat → Progress W → List (Visit W)
  | 0, _ => []
  | n + 1, p => (r.visit? p).toList ++ visits n (r.step p)

/-- The progress once the conclusion of a visit has been drawn. -/
def settled (v : Visit W) : Progress W :=
  match v.conclusion with
  | .ok (some next) => { v.left with stage := .next next }
  | .ok none => r.finish v.task.name v.left
  | .error e => r.stop v.task.name e v.left

/-- Where visits that start from `p` leave the run. -/
def standing (p : Progress W) (visits : List (Visit W)) : Progress W :=
  (visits.getLast?.map r.settled).getD p

/-- The run cancelled before a task. -/
def cancelledBefore (name : String) (p : Progress W) : Progress W :=
  r.stop name (.cancelled (.beforeTask p.inst.id name)) p

variable {r}

/-! ## §2 Sane -/

/-- The stage of a run and the status of its instance agree, and the state is an object. -/
structure Sane (r : Run W) (p : Progress W) : Prop where
  isObject : p.inst.state.IsObject
  next : ∀ name, p.stage = .next name → (∃ t, r.flow.task name = .ok t) ∧
    (p.inst.status = .ready ∨ ∃ task, p.inst.status = .executing task)
  completed : p.stage = .completed → p.inst.status = .completed
  failed : ∀ failure, p.stage = .failed failure →
    ∃ task, p.inst.status = .failed task failure.cause.message

/-- A run that is about to begin a task. -/
structure Ready (r : Run W) (p : Progress W) (t : Task) : Prop where
  stage : p.stage = .next t.name
  task : r.flow.task t.name = .ok t
  status : p.inst.status = .ready ∨ ∃ task, p.inst.status = .executing task
  isObject : p.inst.state.IsObject

theorem Ready.mem {p : Progress W} {t : Task} (h : r.Ready p t) : t ∈ r.flow.tasks :=
  (Flow.task_eq_ok h.task).1

/-- A sane run with a task to begin is ready for it. -/
theorem Sane.ready {p : Progress W} (h : r.Sane p) {name : String} (hstage : p.stage = .next name) :
    ∃ t, r.Ready p t ∧ t.name = name := by
  obtain ⟨⟨t, ht⟩, hstatus⟩ := h.next name hstage
  obtain rfl : t.name = name := (Flow.task_eq_ok ht).2
  exact ⟨t, ⟨hstage, ht, hstatus, h.isObject⟩, rfl⟩

theorem Ready.beginTask_eq {p : Progress W} {t : Task} (h : r.Ready p t) :
    p.inst.beginTask t.name = .ok (p.begun t.name).inst := by
  unfold Instance.beginTask
  rcases h.status with hstatus | ⟨task, hstatus⟩
  · rw [hstatus]
    rfl
  · rw [hstatus]
    rfl

/-- What a visit leaves, by the ways through the phases. -/
theorem Ready.served {p : Progress W} {t : Task} (h : r.Ready p t) :
    r.Served t (p.begun t.name) (r.visit t p).result (r.visit t p).left :=
  serve_served rfl h.isObject

/-! ## §3 Steps -/

theorem exec_runTask {p : Progress W} {t : Task} (h : r.Ready p t) (hgo : r.cancels p = false) :
    (r.runTask t.name).exec p = ((r.visit t p).conclusion, (r.visit t p).left) := by
  have hcheck : (r.checkCancelled t.name).exec p = (.ok (), p) := by
    rw [exec_checkCancelled]
    exact if_neg (by rw [← cancels, hgo]; decide)
  have htask : Action.exec (liftM (r.flow.task t.name) : Action W Task) p = (.ok t, p) := by
    rw [exec_lift, h.task]
  have hbegin : (move (·.beginTask t.name)).exec p = (.ok (), p.begun t.name) := by
    rw [exec_move, h.beginTask_eq]
    rfl
  unfold runTask
  rw [exec_bind_of_ok hcheck]
  refine (exec_bind_of_ok htask _).trans ?_
  rw [exec_bind_of_ok hbegin, exec_bind, Visit.conclusion]
  unfold visit
  dsimp only
  rcases (r.serve t).exec (p.begun t.name) with ⟨_ | decision, q⟩
  · rfl
  · exact exec_lift ..

/-- A step that is not cancelled visits its task. -/
theorem step_of_ready {p : Progress W} {t : Task} (h : r.Ready p t) (hgo : r.cancels p = false) :
    r.step p = r.settled (r.visit t p) := by
  unfold step
  rw [h.stage]
  dsimp only
  rw [exec_runTask h hgo, settled]
  rcases (r.visit t p).conclusion with _ | (_ | _) <;> rfl

theorem visit?_of_ready {p : Progress W} {t : Task} (h : r.Ready p t) (hgo : r.cancels p = false) :
    r.visit? p = some (r.visit t p) := by
  rw [visit?, h.stage]
  simp [hgo, h.task]

/-- A step that is cancelled ends the run before its task. -/
theorem step_of_cancels {p : Progress W} {name : String} (hstage : p.stage = .next name)
    (hcancel : r.cancels p = true) : r.step p = r.cancelledBefore name p := by
  have hcheck : (r.checkCancelled name).exec p =
      (.error (.cancelled (.beforeTask p.inst.id name)), p) := by
    rw [exec_checkCancelled]
    exact if_pos hcancel
  unfold step
  rw [hstage]
  dsimp only
  rw [runTask, exec_bind_of_error hcheck]
  rfl

/-- There is nothing to do for a run that has ended. -/
theorem step_of_ended {p : Progress W} (h : ∀ name, p.stage ≠ .next name) : r.step p = p := by
  unfold step
  split
  · next name hstage => exact absurd hstage (h name)
  · rfl

theorem visit?_of_ended {p : Progress W} (h : ∀ name, p.stage ≠ .next name) :
    r.visit? p = none := by
  unfold visit?
  split
  · next name hstage => exact absurd hstage (h name)
  · rfl

/-- What a step does to a sane run, and whether it visits a task. -/
inductive Stepped (r : Run W) (p : Progress W) : Option (Visit W) → Progress W → Prop
  | ended (h : ∀ name, p.stage ≠ .next name) : Stepped r p none p
  | cancelled {t : Task} (h : r.Ready p t) (hcancel : r.cancels p = true) :
      Stepped r p none (r.cancelledBefore t.name p)
  | visited {t : Task} (h : r.Ready p t) (hgo : r.cancels p = false) :
      Stepped r p (some (r.visit t p)) (r.settled (r.visit t p))

theorem Sane.stepped {p : Progress W} (h : r.Sane p) : r.Stepped p (r.visit? p) (r.step p) := by
  cases hstage : p.stage with
  | next name =>
    obtain ⟨t, hready, rfl⟩ := h.ready hstage
    cases hcancel : r.cancels p with
    | true =>
      have hvisit : r.visit? p = none := by simp [visit?, hstage, hcancel]
      rw [hvisit, step_of_cancels hstage hcancel]
      exact .cancelled hready hcancel
    | false =>
      rw [visit?_of_ready hready hcancel, step_of_ready hready hcancel]
      exact .visited hready hcancel
  | completed | failed =>
    have hended : ∀ name, p.stage ≠ .next name := by
      intro name hnext
      cases hstage.symm.trans hnext
    rw [visit?_of_ended hended, step_of_ended hended]
    exact .ended hended

/-! ## §4 Conclusions -/

/-- Ending a run by an error changes the status and the stage only. -/
theorem stop_eq (name : String) (e : Error) (p : Progress W) :
    ∃ status stage, r.stop name e p = { p.withStatus status with stage } := by
  unfold stop Instance.fail
  dsimp only
  split
  · next failed hfail =>
    split at hfail
    · cases hfail
    · cases hfail
      exact ⟨_, _, rfl⟩
  · exact ⟨p.inst.status, _, rfl⟩

theorem cancelledBefore_eq (name : String) (p : Progress W) :
    ∃ status stage, r.cancelledBefore name p = { p.withStatus status with stage } :=
  stop_eq ..

/-- So does drawing the conclusion of a visit. -/
theorem settled_eq (v : Visit W) :
    ∃ status stage, r.settled v = { v.left.withStatus status with stage } := by
  unfold settled
  split
  · exact ⟨v.left.inst.status, _, rfl⟩
  · unfold finish Instance.complete
    cases v.left.inst.status <;> exact ⟨_, _, rfl⟩
  · exact stop_eq ..

theorem stop_of_not_terminal {name : String} {e : Error} {p : Progress W}
    (h : p.inst.status.isTerminal = false) :
    r.stop name e p =
      { p.withStatus (.failed p.inst.status.currentTask e.message) with
        stage := .failed ⟨r.flow.id, some name, e⟩ } := by
  unfold stop Instance.fail
  rw [h]
  rfl

theorem finish_of_executing {name task : String} {p : Progress W}
    (h : p.inst.status = .executing task) :
    r.finish name p = { p.withStatus .completed with stage := .completed } := by
  unfold finish Instance.complete
  rw [h]
  rfl

theorem Ready.not_terminal {p : Progress W} {t : Task} (h : r.Ready p t) :
    p.inst.status.isTerminal = false := by
  rcases h.status with hstatus | ⟨task, hstatus⟩
  · rw [hstatus]
    rfl
  · rw [hstatus]
    rfl

theorem Ready.left_not_terminal {p : Progress W} {t : Task} (h : r.Ready p t) :
    (r.visit t p).left.inst.status.isTerminal = false := by
  rcases h.served.status rfl with hstatus | ⟨hstatus, -⟩
  · rw [hstatus]
    rfl
  · rw [hstatus]
    rfl

/-- A conclusion is drawn from a decision, or what failed is the conclusion. -/
theorem conclusion_eq_ok {v : Visit W} {next : Option String} (h : v.conclusion = .ok next) :
    ∃ decision, v.result = .ok decision ∧ successor v.task decision = .ok next :=
  bind_eq_ok_iff.mp h

/-- After a visit that gave a decision, the task is executing. -/
theorem Ready.left_executing {p : Progress W} {t : Task} (h : r.Ready p t)
    {decision : Option Json} (hresult : (r.visit t p).result = .ok decision) :
    (r.visit t p).left.inst.status = .executing t.name := by
  rcases h.served.status rfl with hstatus | ⟨-, e, herror⟩
  · exact hstatus
  · cases hresult.symm.trans herror

/-- The run as the conclusion of a visit leaves it. -/
theorem Ready.settled_eq {p : Progress W} {t : Task} (h : r.Ready p t) :
    r.settled (r.visit t p) =
      match (r.visit t p).conclusion with
      | .ok (some next) => { (r.visit t p).left with stage := .next next }
      | .ok none => { (r.visit t p).left.withStatus .completed with stage := .completed }
      | .error e =>
        { (r.visit t p).left.withStatus
            (.failed (r.visit t p).left.inst.status.currentTask e.message) with
          stage := .failed ⟨r.flow.id, some t.name, e⟩ } := by
  unfold settled
  split
  · rfl
  · next hnone =>
    obtain ⟨decision, hresult, -⟩ := conclusion_eq_ok hnone
    exact finish_of_executing (h.left_executing hresult)
  · exact stop_of_not_terminal h.left_not_terminal

/-- A run goes on only if a visit concluded so. -/
theorem Ready.conclusion_of_stage {p : Progress W} {t : Task} (h : r.Ready p t) {name : String}
    (hstage : (r.settled (r.visit t p)).stage = .next name) :
    (r.visit t p).conclusion = .ok (some name) := by
  rw [h.settled_eq] at hstage
  split at hstage
  · next next hnext =>
    cases hstage
    exact hnext
  · cases hstage
  · cases hstage

theorem Ready.settled_sane {p : Progress W} {t : Task} (h : r.Ready p t) :
    r.Sane (r.settled (r.visit t p)) := by
  have hobj := h.served.isObject h.isObject
  rw [h.settled_eq]
  split
  · next next hnext =>
    obtain ⟨decision, hresult, hsuccessor⟩ := conclusion_eq_ok hnext
    have hhandover := successor_eq_some_iff.mp hsuccessor
    refine ⟨hobj, ?_, ?_, ?_⟩
    · intro name hname
      cases hname
      exact ⟨Flow.exists_next h.mem hhandover.mem, Or.inr ⟨t.name, h.left_executing hresult⟩⟩
    · intro hcompleted
      cases hcompleted
    · intro failure hfailed
      cases hfailed
  · refine ⟨hobj, ?_, fun _ => rfl, ?_⟩
    · intro name hname
      cases hname
    · intro failure hfailed
      cases hfailed
  · refine ⟨hobj, ?_, ?_, ?_⟩
    · intro name hname
      cases hname
    · intro hcompleted
      cases hcompleted
    · intro failure hfailed
      cases hfailed
      exact ⟨_, rfl⟩

theorem Ready.cancelledBefore_sane {p : Progress W} {t : Task} (h : r.Ready p t) :
    r.Sane (r.cancelledBefore t.name p) := by
  rw [cancelledBefore, stop_of_not_terminal h.not_terminal]
  refine ⟨h.isObject, ?_, ?_, ?_⟩
  · intro name hname
    cases hname
  · intro hcompleted
    cases hcompleted
  · intro failure hfailed
    cases hfailed
    exact ⟨_, rfl⟩

theorem Stepped.sane {p q : Progress W} {made : Option (Visit W)} (h : r.Stepped p made q)
    (hsane : r.Sane p) : r.Sane q := by
  cases h with
  | ended _ => exact hsane
  | cancelled hready _ => exact hready.cancelledBefore_sane
  | visited hready _ => exact hready.settled_sane

/-! ## §5 Runs -/

theorem advance_of_ended {p : Progress W} (h : ∀ name, p.stage ≠ .next name) (n : Nat) :
    r.advance n p = p := by
  cases n with
  | zero => rfl
  | succ n =>
    unfold advance
    split
    · next name hstage => exact absurd hstage (h name)
    · rfl

theorem visits_of_ended {p : Progress W} (h : ∀ name, p.stage ≠ .next name) (n : Nat) :
    r.visits n p = [] := by
  induction n with
  | zero => rfl
  | succ n ih => rw [visits, visit?_of_ended h, step_of_ended h, ih]; rfl

theorem advance_succ (n : Nat) (p : Progress W) :
    r.advance (n + 1) p = r.advance n (r.step p) := by
  cases hstage : p.stage with
  | next name => rw [advance, hstage]
  | completed | failed =>
    have hended : ∀ name, p.stage ≠ .next name := by
      intro name hnext
      cases hstage.symm.trans hnext
    rw [step_of_ended hended, advance_of_ended hended, advance_of_ended hended]

theorem advance_add (n m : Nat) (p : Progress W) :
    r.advance (n + m) p = r.advance m (r.advance n p) := by
  induction n generalizing p with
  | zero => rw [Nat.zero_add, advance]
  | succ n ih => rw [Nat.add_right_comm, advance_succ, ih, ← advance_succ]

theorem advance_one (p : Progress W) : r.advance 1 p = r.step p := by
  rw [advance_succ, advance]

theorem visits_add (n m : Nat) (p : Progress W) :
    r.visits (n + m) p = r.visits n p ++ r.visits m (r.advance n p) := by
  induction n generalizing p with
  | zero => rw [Nat.zero_add, advance, visits, List.nil_append]
  | succ n ih => rw [Nat.add_right_comm, visits, ih, ← advance_succ, ← List.append_assoc, visits]

theorem Sane.advance {p : Progress W} (h : r.Sane p) (n : Nat) : r.Sane (r.advance n p) := by
  induction n generalizing p with
  | zero => exact h
  | succ n ih =>
    rw [advance_succ]
    exact ih (h.stepped.sane h)

theorem Ready.cancelledBefore_ended {p : Progress W} {t : Task} (h : r.Ready p t) (name : String) :
    (r.cancelledBefore t.name p).stage ≠ .next name := by
  rw [cancelledBefore, stop_of_not_terminal h.not_terminal]
  intro hnext
  cases hnext

/-- A run that is still going has visited a task with every step. -/
theorem Sane.length_visits {p : Progress W} (h : r.Sane p) {n : Nat} {name : String}
    (hstage : (r.advance n p).stage = .next name) : (r.visits n p).length = n := by
  induction n generalizing p with
  | zero => rfl
  | succ n ih =>
    have hstep := h.stepped
    have hq := hstep.sane h
    rw [advance_succ] at hstage
    rw [visits, List.length_append]
    generalize r.visit? p = made, r.step p = q at hstep hstage hq ⊢
    cases hstep with
    | ended hended =>
      rw [advance_of_ended hended] at hstage
      exact absurd hstage (hended name)
    | cancelled hready =>
      rw [advance_of_ended hready.cancelledBefore_ended] at hstage
      exact absurd hstage (hready.cancelledBefore_ended name)
    | visited => rw [ih hq hstage, Option.toList_some, List.length_singleton, Nat.add_comm]

theorem standing_cons (p : Progress W) (v : Visit W) (rest : List (Visit W)) :
    r.standing p (v :: rest) = r.standing (r.settled v) rest := by
  cases rest with
  | nil => rfl
  | cons w rest => simp [standing, List.getLast?_cons]

/-- A run stands where its last visit left it, unless it was cancelled there. -/
theorem Sane.advance_standing {p : Progress W} (h : r.Sane p) (n : Nat) :
    r.advance n p = r.standing p (r.visits n p) ∨
      ∃ t, r.Ready (r.standing p (r.visits n p)) t ∧
        r.cancels (r.standing p (r.visits n p)) = true ∧
        r.advance n p = r.cancelledBefore t.name (r.standing p (r.visits n p)) := by
  -- over the steps: a cancellation or an end leaves the rest of them nothing to do
  induction n generalizing p with
  | zero => exact Or.inl rfl
  | succ n ih =>
    have hstep := h.stepped
    rw [advance_succ, visits]
    generalize r.visit? p = made, r.step p = q at hstep ⊢
    cases hstep with
    | ended hended =>
      rw [advance_of_ended hended, visits_of_ended hended]
      exact Or.inl rfl
    | @cancelled t hready hcancel =>
      rw [advance_of_ended hready.cancelledBefore_ended,
        visits_of_ended hready.cancelledBefore_ended]
      exact Or.inr ⟨t, hready, hcancel, rfl⟩
    | @visited t hready _ =>
      rw [Option.toList_some, List.singleton_append, standing_cons]
      exact ih hready.settled_sane

/-- Nothing but the status and the stage tells a cancelled run from one that was not. -/
theorem Sane.advance_eq {p : Progress W} (h : r.Sane p) (n : Nat) :
    ∃ status stage,
      r.advance n p = { (r.standing p (r.visits n p)).withStatus status with stage } := by
  rcases h.advance_standing n with hstand | ⟨t, -, -, hstand⟩
  · rw [hstand]
    exact ⟨(r.standing p (r.visits n p)).inst.status, (r.standing p (r.visits n p)).stage, rfl⟩
  · rw [hstand]
    exact cancelledBefore_eq ..

/-- Each visit is one of a task that the run was ready for after some steps, and that it was not
cancelled before. -/
theorem Sane.mem_visits {p : Progress W} (h : r.Sane p) {n : Nat} {v : Visit W}
    (hv : v ∈ r.visits n p) :
    ∃ m t, r.Ready (r.advance m p) t ∧ r.cancels (r.advance m p) = false ∧
      v = r.visit t (r.advance m p) := by
  induction n generalizing p with
  | zero => cases hv
  | succ n ih =>
    have hstep := h.stepped
    have hq := hstep.sane h
    rw [visits] at hv
    rcases List.mem_append.mp hv with hmade | hrest
    · generalize r.visit? p = made, r.step p = q at hstep hmade
      cases hstep with
      | ended => cases hmade
      | cancelled => cases hmade
      | @visited t hready hgo =>
        exact ⟨0, t, hready, hgo, (Option.some.inj (Option.mem_toList.mp hmade)).symm⟩
    · obtain ⟨m, t, hready⟩ := ih hq hrest
      rw [← advance_succ] at hready
      exact ⟨m + 1, t, hready⟩

/-- The first visit is the one that the next step makes. -/
theorem Sane.head_visits {p : Progress W} (h : r.Sane p) {n : Nat} {v : Visit W}
    (hv : (r.visits n p).head? = some v) : v.arrived = p ∧ p.stage = .next v.task.name := by
  cases n with
  | zero => cases hv
  | succ n =>
    have hstep := h.stepped
    rw [visits] at hv
    generalize r.visit? p = made, r.step p = q at hstep hv
    cases hstep with
    | ended hended =>
      rw [visits_of_ended hended] at hv
      cases hv
    | cancelled hready =>
      rw [visits_of_ended hready.cancelledBefore_ended] at hv
      cases hv
    | visited hready =>
      cases hv
      exact ⟨rfl, hready.stage⟩

/-- A visit follows another where that one left the run, at the task it concluded with. -/
structure Follows (r : Run W) (v w : Visit W) : Prop where
  conclusion : v.conclusion = .ok (some w.task.name)
  arrived : w.arrived = { v.left with stage := .next w.task.name }

theorem Sane.visits_isChain {p : Progress W} (h : r.Sane p) (n : Nat) :
    (r.visits n p).IsChain r.Follows := by
  induction n generalizing p with
  | zero => exact List.isChain_nil
  | succ n ih =>
    have hstep := h.stepped
    have hq := hstep.sane h
    rw [visits]
    generalize r.visit? p = made, r.step p = q at hstep hq
    cases hstep with
    | ended hended => exact ih hq
    | cancelled => exact ih hq
    | @visited t hready _ =>
      rw [Option.toList_some, List.singleton_append]
      -- the next visit, if there is one, starts where this one settled
      refine List.isChain_cons.mpr ⟨?_, ih hq⟩
      intro w hw
      obtain ⟨harrived, hstage⟩ := hq.head_visits hw
      have hconclusion := hready.conclusion_of_stage hstage
      refine ⟨hconclusion, ?_⟩
      rw [harrived, settled, hconclusion]

/-- What every visit adds to a list, a run adds in the order of its visits. -/
theorem Sane.gathered {α : Type} {f : Progress W → List α} {g : Visit W → List α}
    (hkeep : ∀ q status stage, f { Progress.withStatus q status with stage } = f q)
    (hvisit : ∀ q t, r.Ready q t → f (r.visit t q).left = f q ++ g (r.visit t q))
    {p : Progress W} (h : r.Sane p) (n : Nat) :
    f (r.advance n p) = f p ++ (r.visits n p).flatMap g := by
  induction n generalizing p with
  | zero => exact (List.append_nil _).symm
  | succ n ih =>
    have hstep := h.stepped
    have hq := hstep.sane h
    rw [advance_succ, visits, ih hq]
    generalize r.visit? p = made, r.step p = q at hstep hq
    cases hstep with
    | ended => rfl
    | @cancelled t =>
      obtain ⟨status, stage, heq⟩ := cancelledBefore_eq (r := r) t.name p
      rw [heq, hkeep]
      rfl
    | @visited t hready _ =>
      obtain ⟨status, stage, heq⟩ := settled_eq (r := r) (r.visit t p)
      rw [heq, hkeep, hvisit p t hready, Option.toList_some, List.flatMap_append,
        List.flatMap_singleton, List.append_assoc]

/-- Every visit but the last is followed by another. -/
theorem Sane.followed {p : Progress W} (h : r.Sane p) {n : Nat} {front : List (Visit W)}
    {last : Visit W} (hvisits : r.visits n p = front ++ [last]) {v : Visit W} (hv : v ∈ front) :
    ∃ w, r.Follows v w := by
  have hchain := h.visits_isChain n
  obtain ⟨earlier, later, rfl⟩ := List.append_of_mem hv
  rw [hvisits, List.append_assoc, List.cons_append] at hchain
  have hrest := (List.isChain_append.mp hchain).2.1
  cases hlater : later ++ [last] with
  | nil => simp at hlater
  | cons w rest =>
    rw [hlater] at hrest
    exact ⟨w, (List.isChain_cons_cons.mp hrest).1⟩

end Run

/-! ## §6 Starts -/

namespace Engine

open Run

/-- The state that an order opens with: the payload, and the identity of the instance. -/
def openingState (id flowId correlationId : String) (payload : Json) : Store :=
  ⟨.obj [("input", payload),
    ("model", .obj [("cid", .str correlationId), ("flow", .str flowId), ("instance", .str id)])]⟩

theorem start_sane {r : Run W} {inst : Instance} (hready : inst.status = .ready)
    (hobj : inst.state.IsObject) (world : W) : r.Sane (r.start inst world) := by
  refine ⟨hobj, ?_, ?_, ?_⟩
  · intro name hname
    cases hname
    exact ⟨r.flow.exists_firstTask, Or.inl hready⟩
  · intro hcompleted
    cases hcompleted
  · intro failure hfailed
    cases hfailed

/-- The instance that an order opens, and the runs that start from it. -/
structure Opened (e : Engine W) (flow : Flow) (order : Order) (supply : Supply) (inst : Instance) :
    Prop where
  instanceOf_eq : instanceOf flow order supply = .ok inst
  executed : inst.executed = []
  state : ∃ id flowId correlationId,
    inst.state = openingState id flowId correlationId order.payload
  sane : ∀ world, (e.runOf flow supply).Sane ((e.runOf flow supply).start inst world)
  report : ∀ n world, e.runFlow flow order supply n world =
    ((e.runOf flow supply).advance n ((e.runOf flow supply).start inst world)).report

/-- An order always opens an instance. -/
theorem exists_opened (e : Engine W) (flow : Flow) (order : Order) (supply : Supply) :
    ∃ inst, Opened e flow order supply inst := by
  refine ⟨_, ⟨rfl, rfl, ⟨_, _, _, rfl⟩, ?_, fun n world => rfl⟩⟩
  intro world
  exact start_sane rfl ⟨_, rfl⟩ world

end Engine

end TaskFlow
