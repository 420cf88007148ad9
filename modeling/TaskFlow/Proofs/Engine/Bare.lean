/-
TaskFlow.Proofs.Engine.Bare — a run without its monitors.

A bare run has no host. Its routes and answers come from a `Script`, which knows the dispatches made
so far and nothing else, and its clock counts the time spent on them alone. It says what a run does
as far as its tasks are concerned. `Progress.bare` takes a run to the bare run behind it, and a run
that is routed and answered by a script, and whose monitors take no time that matters, does what its
bare run does.

  §1 Scripts — a dispatch seen from outside, and how dispatches are answered.
  §2 Bare    — the bare run: `serve`, `step`, `advance`.
  §3 Views   — the bare run behind a run.
  §4 Visits  — what a run owes its script during a visit.
  §5 Serving — the phases of a task, bare.
  §6 Runs    — `advance`, bare.
-/
import TaskFlow.Proofs.Engine.Calls

namespace TaskFlow

open TaskFlow.Mapping

/-! ## §1 Scripts -/

/-- The dispatch of a task as its function sees it, and what came of it. -/
structure TaskCall where
  route : String
  request : Request
  limit : Nat
  /-- How long the run waited. -/
  waited : Nat
  answer : Option (Except Error Response)

/-- The time spent on some dispatches. -/
def timeSpent : List TaskCall → Nat
  | [] => 0
  | call :: rest => call.waited + timeSpent rest

/-- How tasks are routed and answered, given the dispatches made before. -/
structure Script where
  route : List TaskCall → Task → String
  /-- The answer within a limit, if there is one, and the time until then. -/
  answer : List TaskCall → (route : String) → Request → (limit : Nat) →
    Option (Except Error Response) × Nat

/-! ## §2 Bare runs -/

/-- All that a bare run depends on besides its script. -/
structure Setting where
  plugins : Plugin.Registry
  epoch : Calendar.Instant
  ttl : Nat
  dispatchTimeout : Nat
  flow : Flow
  supply : Supply

/-- Where a bare run stands. The status of its instance is not kept up. -/
structure Bare where
  inst : Instance
  calls : List TaskCall
  stage : Stage

namespace Bare

/-- The time spent on dispatches. -/
def clock (b : Bare) : Nat := timeSpent b.calls

def begun (b : Bare) (task : String) : Bare :=
  { b with inst := { b.inst with executed := b.inst.executed ++ [task] } }

def withState (b : Bare) (state : Store) : Bare :=
  { b with inst := { b.inst with state } }

def after (b : Bare) (call : TaskCall) : Bare :=
  { b with calls := b.calls ++ [call] }

end Bare

namespace Setting

variable (s : Setting) (script : Script) (t : Task)

def ambient (b : Bare) (n : Nat) : Plugin.Ambient :=
  { now := s.epoch.addMillis b.clock, supply := s.supply.branch n }

def inputOutcome (b : Bare) : Outcome Draft :=
  mapInput s.plugins (s.ambient b (2 * b.inst.executed.length)) t.input b.inst.state

def outputOutcome (b : Bare) : Outcome (Option Json) :=
  mapOutput s.plugins (s.ambient b (2 * b.inst.executed.length + 1)) t.decides t.output
    b.inst.state

/-- How long a dispatch may take. -/
def budget (b : Bare) : Nat :=
  min (t.timeout.getD s.dispatchTimeout) (s.ttl - b.clock)

def request (draft : Draft) (b : Bare) : Request :=
  { body := draft.body.root, headers := draft.headers, correlationId := b.inst.correlationId,
    flowId := s.flow.id, taskName := t.name, instanceId := b.inst.id }

/-- The dispatch of a task, answered by the script. -/
def taskCall (draft : Draft) (b : Bare) : TaskCall :=
  let route := script.route b.calls t
  let request := s.request t draft b
  let limit := s.budget t b
  let (answer, waited) := script.answer b.calls route request limit
  ⟨route, request, limit, waited, answer⟩

/-- What follows a dispatch. -/
def receive (call : TaskCall) (b : Bare) : Except Error (Option Json) × Bare :=
  match call.answer with
  | none => (.error (.timeout call.route call.limit), b)
  | some (.error e) => (.error e, b)
  | some (.ok response) =>
    if response.isError then (.error (.taskFailure response.status response.failureText), b)
    else
      let answered := b.withState (b.inst.state.keeping response)
      let output := s.outputOutcome t answered
      (output.result, answered.withState output.state)

/-- The phases of a task that has begun, without its monitors. -/
def serve (b : Bare) : Except Error (Option Json) × Bare :=
  let mapped := b.withState (s.inputOutcome t b).state
  match (s.inputOutcome t b).result with
  | .error e => (.error e, mapped)
  | .ok draft =>
    if b.clock < s.ttl then
      let call := s.taskCall script t draft mapped
      s.receive t call (mapped.after call)
    else (.error (.timeout (script.route b.calls t) s.ttl), mapped)

/-- Where a run stands once a task has come to its result. -/
def concluded (result : Except Error (Option Json)) : Stage :=
  match result.bind (Run.successor t) with
  | .ok (some next) => .next next
  | .ok none => .completed
  | .error e => .failed ⟨s.flow.id, some t.name, e⟩

/-- One task. -/
def step (b : Bare) : Bare :=
  match b.stage with
  | .next name =>
    match s.flow.task name with
    | .ok t =>
      let (result, left) := s.serve script t (b.begun t.name)
      { left with stage := s.concluded t result }
    | .error _ => b
  | _ => b

/-- Up to so many tasks. -/
def advance : Nat → Bare → Bare
  | 0, b => b
  | n + 1, b => advance n (s.step script b)

end Setting

variable {W : Type}

/-! ## §3 Views -/

/-- A dispatch without the host, and without the time at which it was made. -/
def Delivery.seen (d : Delivery W) : TaskCall :=
  ⟨d.route, d.request, d.limit, d.settled - d.sent, d.answer⟩

/-- The dispatches of tasks among some calls. -/
def taskCalls (calls : List (Delivery W)) : List TaskCall :=
  (calls.filter (·.purpose = .task)).map Delivery.seen

/-- What a run works with, without its host. -/
def Run.setting (r : Run W) : Setting :=
  ⟨r.engine.plugins, r.engine.epoch, r.ttl, r.engine.settings.dispatchTimeout, r.flow, r.supply⟩

namespace Progress

/-- The bare run behind a run. -/
def bare (p : Progress W) : Bare :=
  ⟨{ p.inst with status := .ready }, taskCalls p.deliveries, p.stage⟩

/-- The run with the time as it would be if monitors took none. -/
def onTaskTime (p : Progress W) : Progress W :=
  { p with clock := p.bare.clock }

end Progress

@[simp] theorem taskCalls_append (front back : List (Delivery W)) :
    taskCalls (front ++ back) = taskCalls front ++ taskCalls back := by
  rw [taskCalls, List.filter_append, List.map_append]
  rfl

/-! ## §4 Visits -/

/-- During a visit, the task is routed and answered as a script has it. -/
structure Scripted (script : Script) (r : Run W) (v : Visit W) : Prop where
  /-- The route is looked up once the input mapping has been run. -/
  routed : r.routeNow v.task (r.mapped v.task v.begun) =
    script.route (taskCalls v.arrived.deliveries) v.task
  answered : ∀ d ∈ v.dispatches, (d.answer, d.settled - d.sent) =
    script.answer (taskCalls v.arrived.deliveries) d.route d.request d.limit

/-- During a visit, the time that monitors have taken makes no difference: neither to the mappings,
nor to whether the lifetime is over, nor to what is left of it for the dispatch. -/
structure Unhurried (r : Run W) (v : Visit W) : Prop where
  input : r.inputOutcome v.task.input (r.briefed v.task v.begun) =
    r.inputOutcome v.task.input (r.briefed v.task v.begun).onTaskTime
  alive : (r.mapped v.task v.begun).clock < r.ttl ↔
    (r.mapped v.task v.begun).onTaskTime.clock < r.ttl
  budget : r.budget v.task (r.mapped v.task v.begun) =
    r.budget v.task (r.mapped v.task v.begun).onTaskTime
  output : ∀ draft response, r.Answered v.task v.begun draft (some (.ok response)) →
    r.outputOutcome v.task v.task.output (r.answered v.task draft response v.begun) =
      r.outputOutcome v.task v.task.output (r.answered v.task draft response v.begun).onTaskTime

namespace Run

variable {r : Run W} {script : Script} {t : Task} {p q : Progress W}

/-! ## §5 Serving -/

theorem bare_after {d : Delivery W} (h : d.purpose = .task) (world : W) (p : Progress W) :
    (p.after d world).bare = p.bare.after d.seen := by
  have hcalls : taskCalls [d] = [d.seen] := by simp [taskCalls, h]
  rw [Progress.bare, Progress.after_deliveries, taskCalls_append, hcalls]
  rfl

/-- A monitor that is told leaves no trace in the bare run. -/
theorem bare_told (position : Position) (p : Progress W) :
    (r.told t position p).bare = p.bare := by
  have hcalls : taskCalls (r.monitorCall? t position p).toList = [] := by
    rw [taskCalls, (monitored_monitorCall? position p).filter_task, List.map_nil]
  have hstage : (r.told t position p).stage = p.stage := by
    unfold told
    split <;> rfl
  rw [Progress.bare, (led_told position p).deliveries, taskCalls_append, hcalls, told_inst, hstage,
    List.append_nil]
  rfl

theorem bare_withState (state : Store) (p : Progress W) :
    (p.withState state).bare = p.bare.withState state := rfl

theorem bare_mapped (t : Task) (p : Progress W) :
    (r.mapped t p).bare = p.bare.withState (r.inputOutcome t.input (r.briefed t p)).state := by
  rw [mapped, bare_withState, briefed, bare_told]

theorem bare_dispatched (draft : Draft) (p : Progress W) :
    (r.dispatched t draft p).bare =
      (r.mapped t p).bare.after (r.taskCall t draft (r.mapped t p)).1.seen :=
  bare_after rfl _ ((r.mapped t p).withStatus (.suspended t.name))

theorem bare_answered (draft : Draft) (response : Response) (p : Progress W) :
    (r.answered t draft response p).bare =
      (r.dispatched t draft p).bare.withState
        ((r.dispatched t draft p).bare.inst.state.keeping response) := rfl

/-- A dispatch that is routed, limited and answered as in the bare run is the dispatch of the bare
run. -/
theorem seen_taskCall {draft : Draft} {d : Delivery W} (hd : d = (r.taskCall t draft q).1)
    (hroute : r.routeNow t q = script.route q.bare.calls t)
    (hbudget : r.budget t q = r.setting.budget t q.bare)
    (hanswer : (d.answer, d.settled - d.sent) =
      script.answer q.bare.calls d.route d.request d.limit) :
    d.seen = r.setting.taskCall script t draft q.bare := by
  have hseen : d.seen =
      ⟨d.route, d.request, d.limit, (script.answer q.bare.calls d.route d.request d.limit).2,
        (script.answer q.bare.calls d.route d.request d.limit).1⟩ := by
    rw [← hanswer]
    rfl
  have hroute' : d.route = script.route q.bare.calls t := by
    rw [hd, ← hroute]
    rfl
  have hrequest : d.request = r.setting.request t draft q.bare := by
    rw [hd]
    rfl
  have hlimit : d.limit = r.setting.budget t q.bare := by
    rw [hd, ← hbudget]
    rfl
  rw [hseen, hroute', hrequest, hlimit]
  rfl

/-- During the phases of a task that has begun, the bare run meets what the run meets. -/
structure Mirrored (r : Run W) (script : Script) (t : Task) (p : Progress W) : Prop where
  input : r.setting.inputOutcome t p.bare = r.inputOutcome t.input (r.briefed t p)
  alive : p.bare.clock < r.setting.ttl ↔ (r.mapped t p).clock < r.ttl
  route : script.route p.bare.calls t = r.routeNow t (r.mapped t p)
  call : ∀ {draft answer}, r.Answered t p draft answer →
    r.setting.taskCall script t draft (r.mapped t p).bare =
      (r.taskCall t draft (r.mapped t p)).1.seen
  output : ∀ {draft response}, r.Answered t p draft (some (.ok response)) →
    r.setting.outputOutcome t (r.answered t draft response p).bare =
      r.outputOutcome t t.output (r.answered t draft response p)

theorem Ready.mirrored (h : r.Ready p t) (hscript : Scripted script r (r.visit t p))
    (htime : Unhurried r (r.visit t p)) : Mirrored r script t (p.begun t.name) := by
  have hbriefed : (r.briefed t (p.begun t.name)).bare = (p.begun t.name).bare := bare_told ..
  have hclock : (r.mapped t (p.begun t.name)).bare.clock = (p.begun t.name).bare.clock := by
    rw [bare_mapped]
    rfl
  have hcalls : (r.mapped t (p.begun t.name)).bare.calls =
      taskCalls (r.visit t p).arrived.deliveries := by
    rw [bare_mapped]
    rfl
  have hroute : r.routeNow t (r.mapped t (p.begun t.name)) =
      script.route (taskCalls (r.visit t p).arrived.deliveries) t := hscript.routed
  refine ⟨?_, ?_, hroute.symm, ?_, ?_⟩
  · rw [← hbriefed]
    exact htime.input.symm
  · rw [← hclock]
    exact htime.alive.symm
  · intro draft answer hanswered
    -- the script speaks of the dispatches on record only
    have honly := h.dispatches_of_answered hanswered
    have hanswer := hscript.answered _ (honly ▸ List.mem_singleton_self _)
    rw [← hcalls] at hroute hanswer
    exact (seen_taskCall rfl hroute htime.budget hanswer).symm
  · intro draft response hanswered
    exact (htime.output draft response hanswered).symm

theorem Mirrored.serve_eq (h : Mirrored r script t p) {draft : Draft}
    {answer : Option (Except Error Response)} (hanswered : r.Answered t p draft answer) :
    r.setting.serve script t p.bare =
      r.setting.receive t (r.taskCall t draft (r.mapped t p)).1.seen
        (r.dispatched t draft p).bare := by
  unfold Setting.serve
  dsimp only
  rw [h.input, ← bare_mapped, hanswered.drafted]
  dsimp only
  rw [if_pos (h.alive.mpr hanswered.alive), h.call hanswered, ← bare_dispatched]

theorem receive_ok {s : Setting} {call : TaskCall} {response : Response} (b : Bare)
    (hanswer : call.answer = some (.ok response)) (hstatus : response.isError = false) :
    s.receive t call b =
      ((s.outputOutcome t (b.withState (b.inst.state.keeping response))).result,
        (b.withState (b.inst.state.keeping response)).withState
          (s.outputOutcome t (b.withState (b.inst.state.keeping response))).state) := by
  rw [Setting.receive, hanswer]
  exact if_neg (by simp [hstatus])

/-- What comes of a task, comes of it in the bare run. -/
theorem Served.bare {result : Except Error (Option Json)} (h : r.Served t p result q)
    (hmirror : Mirrored r script t p) :
    r.setting.serve script t p.bare = (result, q.bare) := by
  -- an answer that is accepted: from here on the output mapping decides
  have hdigested : ∀ {draft response}, r.Answered t p draft (some (.ok response)) →
      response.isError = false → r.setting.serve script t p.bare =
        ((r.outputOutcome t t.output (r.answered t draft response p)).result,
          (r.digested t draft response p).bare) := by
    intro draft response hanswered hstatus
    rw [hmirror.serve_eq hanswered, receive_ok _ hanswered.answer_eq hstatus, ← bare_answered,
      hmirror.output hanswered]
    rfl
  cases h with
  | unmapped hfailed =>
    unfold Setting.serve
    dsimp only
    rw [hmirror.input, ← bare_mapped, hfailed]
  | expired hdraft hover =>
    have hleft : ¬p.bare.clock < r.setting.ttl :=
      fun hbelow => Nat.not_lt.mpr hover (hmirror.alive.mp hbelow)
    unfold Setting.serve
    dsimp only
    rw [hmirror.input, ← bare_mapped, hdraft]
    dsimp only
    rw [if_neg hleft, hmirror.route]
    rfl
  | unanswered hanswered =>
    rw [hmirror.serve_eq hanswered, Setting.receive,
      show (r.taskCall t _ (r.mapped t p)).1.seen.answer = none from hanswered.answer_eq]
    rfl
  | rejected hanswered =>
    rw [hmirror.serve_eq hanswered, Setting.receive,
      show (r.taskCall t _ (r.mapped t p)).1.seen.answer = _ from hanswered.answer_eq]
  | refused hanswered hstatus =>
    rw [hmirror.serve_eq hanswered, Setting.receive,
      show (r.taskCall t _ (r.mapped t p)).1.seen.answer = _ from hanswered.answer_eq]
    exact if_pos hstatus
  | undigested hanswered hstatus hfailed => rw [hdigested hanswered hstatus, hfailed]
  | done hanswered hstatus hout => rw [hdigested hanswered hstatus, hout, reported, bare_told]

/-! ## §6 Runs -/

/-- A run that is not cancelled, and whose visits are scripted and unhurried. -/
structure Performs (script : Script) (r : Run W) (n : Nat) (p : Progress W) : Prop where
  uncancelled : ∀ m < n, ∀ name, (r.advance m p).stage = .next name →
    r.cancels (r.advance m p) = false
  scripted : ∀ v ∈ r.visits n p, Scripted script r v
  unhurried : ∀ v ∈ r.visits n p, Unhurried r v

/-- Once a task has come to its result, the run stands where the bare run does. -/
theorem Ready.bare_settled (h : r.Ready p t) :
    (r.settled (r.visit t p)).bare =
      { (r.visit t p).left.bare with stage := r.setting.concluded t (r.visit t p).result } := by
  rw [h.settled_eq, Setting.concluded]
  show _ = { (r.visit t p).left.bare with
    stage := match (r.visit t p).conclusion with
      | .ok (some next) => .next next
      | .ok none => .completed
      | .error e => .failed ⟨r.flow.id, some t.name, e⟩ }
  rcases (r.visit t p).conclusion with _ | (_ | _) <;> rfl

theorem Ready.bare_step (h : r.Ready p t) (hgo : r.cancels p = false)
    (hscript : Scripted script r (r.visit t p)) (htime : Unhurried r (r.visit t p)) :
    (r.step p).bare = r.setting.step script p.bare := by
  have hserve : r.setting.serve script t (p.bare.begun t.name) =
      ((r.visit t p).result, (r.visit t p).left.bare) :=
    h.served.bare (h.mirrored hscript htime)
  have hstage : p.bare.stage = .next t.name := h.stage
  have htask : r.setting.flow.task t.name = .ok t := h.task
  rw [step_of_ready h hgo, h.bare_settled, Setting.step, hstage]
  dsimp only
  rw [htask]
  dsimp only
  rw [hserve]

theorem bare_step_of_ended (h : ∀ name, p.stage ≠ .next name) :
    r.setting.step script p.bare = p.bare := by
  unfold Setting.step
  split
  · next name hstage => exact absurd hstage (h name)
  · rfl

/-- A run does what its bare run does. -/
theorem Performs.bare_advance {n : Nat} (h : Performs script r n p) (hsane : r.Sane p) :
    (r.advance n p).bare = r.setting.advance script n p.bare := by
  induction n generalizing p with
  | zero => rfl
  | succ n ih =>
    have hstep := hsane.stepped
    have hvisits : ∀ v ∈ r.visits n (r.step p), v ∈ r.visits (n + 1) p := by
      intro v hv
      rw [visits]
      exact List.mem_append_right _ hv
    -- what is asked of a run is asked of the rest of it too
    have hrest : Performs script r n (r.step p) := by
      refine ⟨?_, fun v hv => h.scripted v (hvisits v hv), fun v hv => h.unhurried v (hvisits v hv)⟩
      intro m hm
      have hlater := h.uncancelled (m + 1) (Nat.succ_lt_succ hm)
      rwa [advance_succ] at hlater
    rw [advance_succ, ih hrest (hstep.sane hsane), Setting.advance]
    congr 1
    -- so one step of the run has to be one step of the bare run
    generalize hmade : r.visit? p = made, hnext : r.step p = q at hstep
    cases hstep with
    | ended hended => exact (bare_step_of_ended hended).symm
    | cancelled hready hcancel =>
      have hgo := h.uncancelled 0 (Nat.succ_pos n) _ hready.stage
      cases hcancel.symm.trans hgo
    | @visited t hready hgo =>
      have hmem : r.visit t p ∈ r.visits (n + 1) p := by
        rw [visits, hmade]
        exact List.mem_append_left _ (Option.mem_toList.mpr rfl)
      rw [← hnext]
      exact hready.bare_step hgo (h.scripted _ hmem) (h.unhurried _ hmem)

end Run

end TaskFlow
