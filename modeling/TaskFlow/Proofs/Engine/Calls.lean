/-
TaskFlow.Proofs.Engine.Calls — the calls that a run makes, in their order.

A visit tells the monitor before its task, dispatches the task once unless its request cannot be
built or its time is up, and tells the monitor after it only if all has gone well. A run makes the
calls of its visits and no others; a step that fails is the last.

  §1 Hosts      — `Leads`: each call meets the host as the one before left it.
  §2 Points     — the calls made up to each point of a visit.
  §3 Called     — the calls that a visit may make.
  §4 Visits     — every visit makes such calls.
  §5 Dispatches — the calls of a visit that dispatch its task.
  §6 Runs       — all of it, of every run.
-/
import TaskFlow.Proofs.Engine.Walk

namespace TaskFlow

open TaskFlow.Mapping

variable {W : Type}

/-! ## §1 Hosts -/

/-- What came of waiting for the answer of a call. -/
def Delivery.awaited (host : Host W) (d : Delivery W) : Awaited W :=
  (host.dispatch d.world d.route d.request d.limit).await d.limit

/-- The calls lead the host from one state to another, and have the answers that it gives. -/
def Leads (host : Host W) : W → List (Delivery W) → W → Prop
  | w, [], w' => w = w'
  | w, d :: rest, w' =>
    d.world = w ∧ d.answer = (d.awaited host).answer ∧ Leads host (d.awaited host).world rest w'

theorem Leads.append {host : Host W} {w w' w'' : W} {front back : List (Delivery W)}
    (hfront : Leads host w front w') (hback : Leads host w' back w'') :
    Leads host w (front ++ back) w'' := by
  induction front generalizing w with
  | nil =>
    obtain rfl : w = w' := hfront
    exact hback
  | cons d rest ih =>
    obtain ⟨hworld, hanswer, hrest⟩ := hfront
    exact ⟨hworld, hanswer, ih hrest⟩

/-! ## §2 Points -/

namespace Run

section

variable {r : Run W} {t : Task} {draft : Draft} {response : Response} {p q s : Progress W}

/-- The calls made between two points of a run: they are on record, and lead the host. -/
structure Led (r : Run W) (p q : Progress W) (calls : List (Delivery W)) : Prop where
  deliveries : q.deliveries = p.deliveries ++ calls
  leads : Leads r.engine.host p.world calls q.world

theorem Led.trans {front back : List (Delivery W)} (hfront : Led r p q front)
    (hback : Led r q s back) : Led r p s (front ++ back) := by
  refine ⟨?_, hfront.leads.append hback.leads⟩
  rw [hback.deliveries, hfront.deliveries, List.append_assoc]

theorem led_call (purpose : Purpose) (route : String) (request : Request) (limit : Nat)
    (p : Progress W) :
    Led r p (p.after (r.call purpose route request limit p).1
      (r.call purpose route request limit p).2) [(r.call purpose route request limit p).1] :=
  ⟨rfl, rfl, rfl, rfl⟩

/-- The call of a monitor that is due now. -/
def monitorCall? (r : Run W) (t : Task) (position : Position) (p : Progress W) :
    Option (Delivery W) :=
  ((r.engine.host.overrides p.world).monitorOf r.flow.id t position).map fun route =>
    (r.call (.monitor position) route (r.request p.inst t (r.snapshot p.inst t position) [])
      r.engine.settings.monitorTimeout p).1

theorem led_told (position : Position) (p : Progress W) :
    Led r p (r.told t position p) (r.monitorCall? t position p).toList := by
  unfold told monitorCall?
  cases (r.engine.host.overrides p.world).monitorOf r.flow.id t position with
  | none => exact ⟨(List.append_nil _).symm, rfl⟩
  | some route => exact led_call ..

/-- What comes after the last call does not matter. -/
theorem Led.congr {q' : Progress W} {calls : List (Delivery W)} (h : Led r p q calls)
    (hdeliveries : q'.deliveries = q.deliveries) (hworld : q'.world = q.world) :
    Led r p q' calls := by
  refine ⟨?_, ?_⟩
  · rw [hdeliveries, h.deliveries]
  · rw [hworld]
    exact h.leads

theorem led_mapped (r : Run W) (t : Task) (p : Progress W) :
    Led r p (r.mapped t p) (r.monitorCall? t .before p).toList :=
  (led_told .before p).congr rfl rfl

theorem led_dispatched (r : Run W) (t : Task) (draft : Draft) (p : Progress W) :
    Led r p (r.dispatched t draft p)
      ((r.monitorCall? t .before p).toList ++ [(r.taskCall t draft (r.mapped t p)).1]) := by
  have hcall : Led r (r.mapped t p) (r.dispatched t draft p)
      [(r.taskCall t draft (r.mapped t p)).1] := ⟨rfl, rfl, rfl, rfl⟩
  exact (led_mapped r t p).trans hcall

theorem led_resumed (r : Run W) (t : Task) (draft : Draft) (p : Progress W) :
    Led r p (r.resumed t draft p)
      ((r.monitorCall? t .before p).toList ++ [(r.taskCall t draft (r.mapped t p)).1]) :=
  (led_dispatched r t draft p).congr rfl rfl

theorem led_digested (r : Run W) (t : Task) (draft : Draft) (response : Response)
    (p : Progress W) :
    Led r p (r.digested t draft response p)
      ((r.monitorCall? t .before p).toList ++ [(r.taskCall t draft (r.mapped t p)).1]) :=
  (led_dispatched r t draft p).congr rfl rfl

theorem led_reported (r : Run W) (t : Task) (draft : Draft) (response : Response)
    (p : Progress W) :
    Led r p (r.reported t draft response p)
      ((r.monitorCall? t .before p).toList ++ (r.taskCall t draft (r.mapped t p)).1 ::
        (r.monitorCall? t .after (r.digested t draft response p)).toList) := by
  have hreported : Led r (r.digested t draft response p) (r.reported t draft response p)
      (r.monitorCall? t .after (r.digested t draft response p)).toList := led_told .after _
  have hled := (led_digested r t draft response p).trans hreported
  rw [List.append_assoc, List.singleton_append] at hled
  exact hled

/-- Every way through the phases makes some calls. -/
theorem Served.led {result : Except Error (Option Json)} (h : r.Served t p result q) :
    ∃ calls, Led r p q calls := by
  cases h with
  | unmapped | expired => exact ⟨_, led_mapped r t p⟩
  | @unanswered draft => exact ⟨_, led_dispatched r t draft p⟩
  | @rejected draft => exact ⟨_, led_dispatched r t draft p⟩
  | @refused draft => exact ⟨_, led_resumed r t draft p⟩
  | @undigested draft response => exact ⟨_, led_digested r t draft response p⟩
  | @done draft response => exact ⟨_, led_reported r t draft response p⟩

end

end Run

/-! ## §3 Called -/

/-- The call of the monitor that is effective in a state of the host, and none if there is none; it
is sent the state of the instance. -/
structure Monitored (r : Run W) (t : Task) (position : Position) (world : W) (inst : Instance)
    (call : Option (Delivery W)) : Prop where
  route : call.map (·.route) = (r.engine.host.overrides world).monitorOf r.flow.id t position
  purpose : ∀ d ∈ call, d.purpose = .monitor position
  world : ∀ d ∈ call, d.world = world
  request : ∀ d ∈ call, d.request = r.request inst t (r.snapshot inst t position) []

/-- The dispatch of a task, with its draft, to the route that is effective when it is made. -/
structure Dispatched (r : Run W) (v : Visit W) (draft : Draft) (d : Delivery W) : Prop where
  purpose : d.purpose = .task
  route : d.route = (r.engine.host.overrides d.world).routeOf r.flow.id v.task
  drafted : (r.inputOutcome v.task.input (r.briefed v.task v.begun)).result = .ok draft
  request : d.request = r.request v.begun.inst v.task draft.body.root draft.headers

def Visit.calls (v : Visit W) : List (Delivery W) :=
  v.left.deliveries.drop v.arrived.deliveries.length

/-- The calls that a visit may make, each with what became of the visit. -/
inductive Called (r : Run W) (v : Visit W) : Prop
  /-- Nothing is dispatched: the input mapping failed, or nothing was left of the lifetime. -/
  | undispatched {before : Option (Delivery W)} {e : Error} (calls : v.calls = before.toList)
      (monitored : Monitored r v.task .before v.arrived.world v.begun.inst before)
      (failed : v.result = .error e)
      (reason : (r.inputOutcome v.task.input (r.briefed v.task v.begun)).result = .error e ∨
        r.ttl ≤ (r.mapped v.task v.begun).clock)
  /-- The dispatch is not answered, or by an error or an error status, or the output mapping fails
  on the answer. -/
  | unfinished {before : Option (Delivery W)} {d : Delivery W} {draft : Draft} {e : Error}
      (calls : v.calls = before.toList ++ [d])
      (monitored : Monitored r v.task .before v.arrived.world v.begun.inst before)
      (dispatched : Dispatched r v draft d) (failed : v.result = .error e)
      (reason : d.answer = none ∨ d.answer = some (.error e) ∨
        ∃ response, d.answer = some (.ok response) ∧ (400 ≤ response.status ∨
          (r.outputOutcome v.task v.task.output
            (r.answered v.task draft response v.begun)).result = .error e))
  /-- The dispatch is answered, its output mapping succeeds, and the monitor after the task is
  sent the state that it left. -/
  | finished {before after : Option (Delivery W)} {d : Delivery W} {draft : Draft}
      {response : Response} {decision : Option Json}
      (calls : v.calls = before.toList ++ d :: after.toList)
      (monitored : Monitored r v.task .before v.arrived.world v.begun.inst before)
      (dispatched : Dispatched r v draft d) (answer : d.answer = some (.ok response))
      (accepted : response.status < 400)
      (output : r.outputOutcome v.task v.task.output (r.answered v.task draft response v.begun) =
        ⟨v.left.inst.state, .ok decision⟩)
      (result : v.result = .ok decision)
      (reported : Monitored r v.task .after (d.awaited r.engine.host).world v.left.inst after)

namespace Run

variable {r : Run W} {t : Task} {p : Progress W}

/-! ## §4 Visits -/

/-- The due call of a monitor is the call of the effective monitor. -/
theorem monitored_monitorCall? (position : Position) (p : Progress W) :
    Monitored r t position p.world p.inst (r.monitorCall? t position p) := by
  unfold monitorCall?
  cases hroute : (r.engine.host.overrides p.world).monitorOf r.flow.id t position with
  | none =>
    refine ⟨hroute.symm, ?_, ?_, ?_⟩
    all_goals
      intro d hd
      cases hd
  | some route =>
    refine ⟨hroute.symm, ?_, ?_, ?_⟩
    all_goals
      intro d hd
      cases hd
      rfl

/-- The dispatch that a visit makes is the dispatch of its task. -/
theorem dispatched_taskCall {draft : Draft}
    (h : (r.inputOutcome t.input (r.briefed t (p.begun t.name))).result = .ok draft) :
    Dispatched r (r.visit t p) draft
      (r.taskCall t draft (r.mapped t (p.begun t.name))).1 := by
  refine ⟨rfl, rfl, h, ?_⟩
  show r.request (r.briefed t (p.begun t.name)).inst t draft.body.root draft.headers = _
  rw [briefed, told_inst]
  rfl

/-- A visit that ends with more calls than it began with has made those. -/
theorem visit_calls {calls : List (Delivery W)}
    (h : Led r (p.begun t.name) (r.visit t p).left calls) : (r.visit t p).calls = calls := by
  rw [Visit.calls, h.deliveries]
  exact List.drop_left

theorem isError_iff {response : Response} : response.isError = true ↔ 400 ≤ response.status :=
  decide_eq_true_iff

theorem isError_eq_false_iff {response : Response} :
    response.isError = false ↔ response.status < 400 := by
  rw [← Bool.not_eq_true, isError_iff, Nat.not_le]

/-- Every visit makes calls that it may make. -/
theorem Ready.called (h : r.Ready p t) : Called r (r.visit t p) := by
  have hbefore := monitored_monitorCall? (r := r) (t := t) .before (p.begun t.name)
  have hserved := h.served
  generalize hresult : (r.visit t p).result = result, hleft : (r.visit t p).left = q at hserved
  cases hserved with
  | unmapped hin =>
    refine .undispatched (visit_calls ?_) hbefore hresult (Or.inl hin)
    rw [hleft]
    exact led_mapped ..
  | expired hin hclock =>
    refine .undispatched (visit_calls ?_) hbefore hresult (Or.inr hclock)
    rw [hleft]
    exact led_mapped ..
  | @unanswered draft hanswered =>
    refine .unfinished (visit_calls ?_) hbefore (dispatched_taskCall hanswered.drafted) hresult
      (Or.inl hanswered.answer_eq)
    rw [hleft]
    exact led_dispatched ..
  | @rejected draft e hanswered =>
    refine .unfinished (visit_calls ?_) hbefore (dispatched_taskCall hanswered.drafted) hresult
      (Or.inr (Or.inl hanswered.answer_eq))
    rw [hleft]
    exact led_dispatched ..
  | @refused draft response hanswered hstatus =>
    refine .unfinished (visit_calls ?_) hbefore (dispatched_taskCall hanswered.drafted) hresult
      (Or.inr (Or.inr ⟨response, hanswered.answer_eq, Or.inl (isError_iff.mp hstatus)⟩))
    rw [hleft]
    exact led_resumed ..
  | @undigested draft response e hanswered _ hout =>
    refine .unfinished (visit_calls ?_) hbefore (dispatched_taskCall hanswered.drafted) hresult
      (Or.inr (Or.inr ⟨response, hanswered.answer_eq, Or.inr hout⟩))
    rw [hleft]
    exact led_digested ..
  | @done draft response decision hanswered hstatus hout =>
    have hinst : (r.visit t p).left.inst =
        (r.digested t draft response (p.begun t.name)).inst := by
      rw [hleft, reported, told_inst]
    have hafter := monitored_monitorCall? (r := r) (t := t) .after
      (r.digested t draft response (p.begun t.name))
    rw [← hinst] at hafter
    refine .finished (visit_calls ?_) hbefore (dispatched_taskCall hanswered.drafted)
      hanswered.answer_eq (isError_eq_false_iff.mp hstatus) ?_ hresult hafter
    · rw [hleft]
      exact led_reported ..
    · rw [hinst]
      exact Outcome.eq_of_result hout

theorem Ready.led (h : r.Ready p t) : Led r p (r.visit t p).left (r.visit t p).calls := by
  obtain ⟨calls, hled⟩ := h.served.led
  rw [visit_calls hled]
  exact ⟨hled.deliveries, hled.leads⟩

/-- A visit calls the monitor that is due before its task. The task is then dispatched, unless the
request cannot be built or the time is up, and no other call is a dispatch. -/
theorem Ready.calls_cases (h : r.Ready p t) :
    ((r.visit t p).calls = (r.monitorCall? t .before (p.begun t.name)).toList ∧
        ∀ draft answer, ¬r.Answered t (p.begun t.name) draft answer) ∨
      ∃ draft answer after, r.Answered t (p.begun t.name) draft answer ∧
        (r.visit t p).calls = (r.monitorCall? t .before (p.begun t.name)).toList ++
          (r.taskCall t draft (r.mapped t (p.begun t.name))).1 :: after ∧
        ∀ d ∈ after, d.purpose ≠ .task := by
  have hserved := h.served
  generalize (r.visit t p).result = result, hleft : (r.visit t p).left = left at hserved
  have hcalls : ∀ {calls}, Led r (p.begun t.name) left calls → (r.visit t p).calls = calls := by
    intro calls hled
    rw [← hleft] at hled
    exact visit_calls hled
  have hnone : ∀ d ∈ ([] : List (Delivery W)), d.purpose ≠ .task := by
    intro d hd
    cases hd
  cases hserved with
  | unmapped hfailed =>
    refine Or.inl ⟨hcalls (led_mapped ..), ?_⟩
    intro draft answer hanswered
    cases hfailed.symm.trans hanswered.drafted
  | expired _ hover =>
    refine Or.inl ⟨hcalls (led_mapped ..), ?_⟩
    intro draft answer hanswered
    exact Nat.not_lt.mpr hover hanswered.alive
  | unanswered hanswered =>
    exact Or.inr ⟨_, _, [], hanswered, hcalls (led_dispatched ..), hnone⟩
  | rejected hanswered => exact Or.inr ⟨_, _, [], hanswered, hcalls (led_dispatched ..), hnone⟩
  | refused hanswered => exact Or.inr ⟨_, _, [], hanswered, hcalls (led_resumed ..), hnone⟩
  | undigested hanswered => exact Or.inr ⟨_, _, [], hanswered, hcalls (led_digested ..), hnone⟩
  | done hanswered =>
    refine Or.inr ⟨_, _, _, hanswered, hcalls (led_reported ..), ?_⟩
    intro d hd hpurpose
    have hafter := (monitored_monitorCall? _ _).purpose d (Option.mem_toList.mp hd)
    cases hpurpose.symm.trans hafter

end Run

/-! ## §5 Dispatches -/

/-- The dispatches of tasks among the calls of a visit. -/
def Visit.dispatches (v : Visit W) : List (Delivery W) :=
  v.calls.filter (·.purpose = .task)

/-- The call of a monitor is no dispatch. -/
theorem Monitored.filter_task {r : Run W} {t : Task} {position : Position} {world : W}
    {inst : Instance} {call : Option (Delivery W)} (h : Monitored r t position world inst call) :
    call.toList.filter (·.purpose = .task) = [] := by
  rw [List.filter_eq_nil_iff]
  intro d hd
  rw [h.purpose d (Option.mem_toList.mp hd)]
  simp

/-- A task is dispatched once, or not at all if it fails. -/
theorem Called.dispatches {r : Run W} {v : Visit W} (h : Called r v) :
    (∃ d, v.dispatches = [d]) ∨ v.dispatches = [] ∧ ∃ e, v.result = .error e := by
  unfold Visit.dispatches
  cases h with
  | undispatched calls monitored failed _ =>
    rw [calls, monitored.filter_task]
    exact Or.inr ⟨rfl, _, failed⟩
  | @unfinished _ d _ _ calls monitored dispatched _ _ =>
    refine Or.inl ⟨d, ?_⟩
    rw [calls, List.filter_append, monitored.filter_task]
    simp [dispatched.purpose]
  | @finished _ _ d _ _ _ calls monitored dispatched _ _ _ _ reported =>
    refine Or.inl ⟨d, ?_⟩
    rw [calls, List.filter_append, monitored.filter_task, List.filter_cons,
      reported.filter_task]
    simp [dispatched.purpose]

namespace Run

variable {r : Run W} {t : Task} {p : Progress W}

/-- The dispatch that was answered, or was not, is on record, and is the only one. -/
theorem Ready.dispatches_of_answered (h : r.Ready p t) {draft : Draft}
    {answer : Option (Except Error Response)}
    (hanswered : r.Answered t (p.begun t.name) draft answer) :
    (r.visit t p).dispatches = [(r.taskCall t draft (r.mapped t (p.begun t.name))).1] := by
  rcases h.calls_cases with ⟨-, hnone⟩ | ⟨other, _, after, hother, hcalls, hafter⟩
  · exact absurd hanswered (hnone draft answer)
  · obtain rfl : other = draft := Except.ok.inj (hother.drafted.symm.trans hanswered.drafted)
    have hback : after.filter (·.purpose = .task) = [] :=
      List.filter_eq_nil_iff.mpr fun d hd hpurpose => hafter d hd (of_decide_eq_true hpurpose)
    rw [Visit.dispatches, hcalls, List.filter_append,
      (monitored_monitorCall? .before (p.begun t.name)).filter_task, List.filter_cons, hback]
    rfl

theorem Ready.dispatches_of_not_answered (h : r.Ready p t)
    (hnone : ∀ draft answer, ¬r.Answered t (p.begun t.name) draft answer) :
    (r.visit t p).dispatches = [] := by
  rcases h.calls_cases with ⟨hcalls, -⟩ | ⟨draft, answer, _, hanswered, -⟩
  · rw [Visit.dispatches, hcalls, (monitored_monitorCall? .before (p.begun t.name)).filter_task]
  · exact absurd hanswered (hnone draft answer)

/-- What a visit dispatches is its task. -/
theorem Ready.exists_answered (h : r.Ready p t) {d : Delivery W}
    (hd : d ∈ (r.visit t p).dispatches) :
    ∃ draft answer, r.Answered t (p.begun t.name) draft answer ∧
      d = (r.taskCall t draft (r.mapped t (p.begun t.name))).1 := by
  rcases h.calls_cases with ⟨-, hnone⟩ | ⟨draft, answer, _, hanswered, -⟩
  · rw [h.dispatches_of_not_answered hnone] at hd
    cases hd
  · rw [h.dispatches_of_answered hanswered] at hd
    exact ⟨draft, answer, hanswered, List.mem_singleton.mp hd⟩

/-! ## §6 Runs -/

/-- A run makes the calls of its visits. -/
theorem Sane.led_advance (h : r.Sane p) (n : Nat) :
    Led r p (r.advance n p) ((r.visits n p).flatMap Visit.calls) := by
  induction n generalizing p with
  | zero => exact ⟨(List.append_nil _).symm, rfl⟩
  | succ n ih =>
    have hstep := h.stepped
    have hrest := ih (hstep.sane h)
    rw [advance_succ, visits, List.flatMap_append]
    generalize r.visit? p = made, r.step p = q at hstep hrest
    -- the calls of the step in front of those of the rest
    refine Led.trans ?_ hrest
    cases hstep with
    | ended => exact ⟨(List.append_nil _).symm, rfl⟩
    | @cancelled t =>
      obtain ⟨status, stage, heq⟩ := cancelledBefore_eq (r := r) t.name p
      rw [heq]
      exact ⟨(List.append_nil _).symm, rfl⟩
    | @visited t hready =>
      obtain ⟨status, stage, heq⟩ := settled_eq (r := r) (r.visit t p)
      rw [heq, Option.toList_some, List.flatMap_singleton]
      exact ⟨hready.led.deliveries, hready.led.leads⟩

end Run

namespace Engine

open Run

/-- The calls of a run are the calls of its visits, in order, and each visit makes the calls it may
make. Every task that has begun is dispatched once, but for the last task of a failed run; a step
that fails is the last, and nothing is called after it. Each visit starts from the state and the
host as the visit before left them. -/
theorem runFlow_calls (e : Engine W) (flow : Flow) (order : Order) (supply : Supply) (n : Nat)
    (world : W) :
    ∃ inst, instanceOf flow order supply = .ok inst ∧
      let r := e.runOf flow supply
      let start := r.start inst world
      let visits := r.visits n start
      let report := e.runFlow flow order supply n world
      (r.advance n start).inst.executed = visits.map (·.task.name) ∧
      report.deliveries = visits.flatMap Visit.calls ∧
      (∀ v ∈ visits, Called r v) ∧
      Leads e.host world report.deliveries report.world ∧
      (∀ v, visits.head? = some v → v.arrived = start) ∧
      (visits.IsChain fun v w =>
        w.begun.inst.state = v.left.inst.state ∧ w.begun.world = v.left.world) ∧
      (∀ v ∈ visits, (∃ d, v.dispatches = [d]) ∨
        v.dispatches = [] ∧ visits.getLast? = some v ∧
          ∃ failure, report.ending = .failed failure) ∧
      (∀ front v back cause, visits = front ++ v :: back → v.conclusion = .error cause →
        back = []) ∧
      ∀ failure, report.ending = .failed failure → ∀ m, n ≤ m →
        e.runFlow flow order supply m world = report := by
  obtain ⟨inst, hopened⟩ := exists_opened e flow order supply
  refine ⟨inst, hopened.instanceOf_eq, ?_⟩
  intro r start visits report
  have hsane : r.Sane start := hopened.sane world
  have hreport : report = (r.advance n start).report := hopened.report n world
  have hrun := hopened.executed_advance n world
  have hled := hsane.led_advance n
  have hdeliveries : report.deliveries = visits.flatMap Visit.calls := by
    rw [hreport]
    exact hled.deliveries
  have hcalled : ∀ v ∈ visits, Called r v := by
    intro v hv
    obtain ⟨m, t, hq, -, rfl⟩ := hsane.mem_visits hv
    exact hq.called
  refine ⟨hrun, hdeliveries, hcalled, ?_, ?_, ?_, ?_, ?_, ?_⟩
  · rw [hdeliveries, hreport]
    exact hled.leads
  · intro v hv
    exact (hsane.head_visits hv).1
  · refine (hsane.visits_isChain n).imp ?_
    intro v w hfollows
    rw [Visit.begun, hfollows.arrived]
    exact ⟨rfl, rfl⟩
  · intro v hv
    rcases (hcalled v hv).dispatches with hone | ⟨hnone, cause, hfailed⟩
    · exact Or.inl hone
    · obtain ⟨front, back, hvisits⟩ := List.append_of_mem hv
      have hcause : v.conclusion = .error cause := by
        rw [Visit.conclusion, hfailed]
        rfl
      obtain ⟨rfl, hstage⟩ := hsane.advance_failed hvisits hcause
      have hlast : visits.getLast? = some v := by
        rw [hvisits, List.getLast?_concat]
      have hending := ending_failed_iff.mpr hstage
      rw [hreport]
      exact Or.inr ⟨hnone, hlast, _, hending⟩
  · intro front v back cause hvisits hcause
    exact (hsane.advance_failed hvisits hcause).1
  · intro failure hfailed m hm
    rw [hreport] at hfailed
    have hended : ∀ name, (r.advance n start).stage ≠ .next name := by
      intro name hnext
      cases hnext.symm.trans (ending_failed_iff.mp hfailed)
    obtain ⟨k, rfl⟩ := Nat.exists_eq_add_of_le hm
    rw [hopened.report, hreport]
    show (r.advance (n + k) start).report = _
    rw [advance_add, advance_of_ended hended]

end Engine

end TaskFlow
