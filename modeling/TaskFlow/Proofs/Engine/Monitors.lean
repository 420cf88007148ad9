/-
TaskFlow.Proofs.Engine.Monitors — monitors change nothing.

Two runs of a flow that differ in their monitors alone have the same bare run, so they make the same
dispatches and end alike. Monitors can reach a run in one way only: they take time, and time runs
out and can be asked for. Two conditions are given here under which that makes no difference: that
they take none, and that there is plenty of it and nobody asks.

  §1 Clocks  — the clock of a run shows the time spent on all of its calls.
  §2 Instant — monitors that take no time.
  §3 Ample   — monitors that may take their time.
  §4 Runs    — two runs, with any monitors.
-/
import TaskFlow.Proofs.Engine.Bare

namespace TaskFlow

open TaskFlow.Mapping

variable {W : Type}

/-! ## §1 Clocks -/

/-- The time spent on all calls, those of monitors too. -/
def elapsed (calls : List (Delivery W)) : Nat :=
  timeSpent (calls.map Delivery.seen)

theorem elapsed_concat (calls : List (Delivery W)) (d : Delivery W) :
    elapsed (calls ++ [d]) = elapsed calls + d.seen.waited := by
  induction calls with
  | nil => exact Nat.add_comm ..
  | cons c rest ih => exact (congrArg (c.seen.waited + ·) ih).trans (Nat.add_assoc ..).symm

/-- The calls take no time unless they dispatch a task. -/
def Instant (calls : List (Delivery W)) : Prop :=
  ∀ d ∈ calls, d.purpose ≠ .task → d.settled = d.sent

theorem taskCalls_cons (d : Delivery W) (rest : List (Delivery W)) :
    taskCalls (d :: rest) =
      if d.purpose = .task then d.seen :: taskCalls rest else taskCalls rest := by
  unfold taskCalls
  by_cases h : d.purpose = .task <;> simp [h]

theorem timeSpent_taskCalls_le (calls : List (Delivery W)) :
    timeSpent (taskCalls calls) ≤ elapsed calls := by
  induction calls with
  | nil => exact Nat.le_refl _
  | cons d rest ih =>
    rw [taskCalls_cons]
    split
    · exact Nat.add_le_add_left ih _
    · exact ih.trans (Nat.le_add_left _ _)

theorem Instant.timeSpent_taskCalls {calls : List (Delivery W)} (h : Instant calls) :
    timeSpent (taskCalls calls) = elapsed calls := by
  induction calls with
  | nil => rfl
  | cons d rest ih =>
    have hrest := ih fun other hother => h other (List.mem_cons_of_mem _ hother)
    rw [taskCalls_cons]
    split
    · exact congrArg (d.seen.waited + ·) hrest
    · next hmonitor =>
      have hwaited : d.seen.waited = 0 := by
        show d.settled - d.sent = 0
        rw [h d List.mem_cons_self hmonitor, Nat.sub_self]
      rw [hrest]
      show _ = d.seen.waited + elapsed rest
      rw [hwaited, Nat.zero_add]

namespace Run

variable {r : Run W} {t : Task} {p q : Progress W}

/-- The clock shows the time spent on the calls on record. -/
def Timed (p : Progress W) : Prop :=
  p.clock = elapsed p.deliveries

/-- Only the clock and the calls matter. -/
theorem Timed.congr (h : Timed p) (hclock : q.clock = p.clock)
    (hdeliveries : q.deliveries = p.deliveries) : Timed q := by
  rw [Timed, hclock, hdeliveries]
  exact h

/-- A call is on record with the time that was spent on it. -/
theorem Timed.after_call (h : Timed p) (hclock : p.clock = q.clock) (purpose : Purpose)
    (route : String) (request : Request) (limit : Nat) (world : W) :
    Timed (p.after (r.call purpose route request limit q).1 world) := by
  have hsettled : (r.call purpose route request limit q).1.settled =
      q.clock + ((r.engine.host.dispatch q.world route request limit).await limit).waited := rfl
  have hsent : (r.call purpose route request limit q).1.sent = q.clock := rfl
  have hwaited : (r.call purpose route request limit q).1.seen.waited =
      ((r.engine.host.dispatch q.world route request limit).await limit).waited := by
    rw [Delivery.seen, hsettled, hsent]
    exact Nat.add_sub_cancel_left ..
  rw [Timed, Progress.after_clock, Progress.after_deliveries, elapsed_concat, hwaited, hsettled,
    ← hclock, h]

theorem Timed.told (h : Timed p) (position : Position) : Timed (r.told t position p) := by
  unfold Run.told
  split
  · exact h
  · exact h.after_call rfl ..

theorem Timed.mapped (h : Timed p) : Timed (r.mapped t p) :=
  (h.told .before).congr rfl rfl

theorem Timed.dispatched (h : Timed p) (draft : Draft) : Timed (r.dispatched t draft p) := by
  have hsuspended : Timed ((r.mapped t p).withStatus (.suspended t.name)) := h.mapped.congr rfl rfl
  unfold Run.dispatched taskCall
  exact hsuspended.after_call rfl ..

/-- No phase loses time. -/
theorem Served.timed {result : Except Error (Option Json)} (h : r.Served t p result q)
    (hp : Timed p) : Timed q := by
  have hdispatched : ∀ draft, Timed (r.dispatched t draft p) := hp.dispatched
  cases h with
  | unmapped | expired => exact hp.mapped
  | unanswered | rejected => exact hdispatched _
  | @refused draft | @undigested draft => exact (hdispatched draft).congr rfl rfl
  | @done draft response =>
    have hdigested : Timed (r.digested t draft response p) := (hdispatched draft).congr rfl rfl
    exact hdigested.told .after

theorem Stepped.timed {made : Option (Visit W)} (h : r.Stepped p made q) (hp : Timed p) :
    Timed q := by
  cases h with
  | ended => exact hp
  | @cancelled t =>
    obtain ⟨status, stage, heq⟩ := cancelledBefore_eq (r := r) t.name p
    rw [heq]
    exact hp.congr rfl rfl
  | @visited t hready =>
    obtain ⟨status, stage, heq⟩ := settled_eq (r := r) (r.visit t p)
    rw [heq]
    have hbegun : Timed (p.begun t.name) := hp.congr rfl rfl
    exact (hready.served.timed hbegun).congr rfl rfl

theorem Sane.timed_advance (h : r.Sane p) (hp : Timed p) (n : Nat) : Timed (r.advance n p) := by
  induction n generalizing p with
  | zero => exact hp
  | succ n ih =>
    rw [advance_succ]
    exact ih (h.stepped.sane h) (h.stepped.timed hp)

/-- The clock of the bare run is never ahead. -/
theorem Timed.bare_clock_le (h : Timed p) : p.bare.clock ≤ p.clock := by
  rw [h]
  exact timeSpent_taskCalls_le p.deliveries

/-! ## §2 Instant monitors -/

theorem Timed.onTaskTime_eq (h : Timed p) (hinstant : Instant p.deliveries) : p.onTaskTime = p := by
  have hclock : p.bare.clock = p.clock := by
    rw [h]
    exact hinstant.timeSpent_taskCalls
  rw [Progress.onTaskTime, hclock]

/-- The monitor before a task is called in every visit of the task. -/
theorem Ready.mem_calls (h : r.Ready p t) {d : Delivery W}
    (hd : d ∈ r.monitorCall? t .before (p.begun t.name)) : d ∈ (r.visit t p).calls := by
  have hbefore := Option.mem_toList.mpr hd
  rcases h.calls_cases with ⟨hcalls, -⟩ | ⟨_, _, _, -, hcalls, -⟩
  · rwa [hcalls]
  · rw [hcalls]
    exact List.mem_append_left _ hbefore

/-- A visit is not hurried by monitors that take no time. -/
theorem Ready.unhurried_of_instant (h : r.Ready p t) (hp : Timed p)
    (hinstant : Instant (r.visit t p).left.deliveries) : Unhurried r (r.visit t p) := by
  -- every earlier point of the visit has fewer calls on record than its end
  have hleft : (r.visit t p).left.deliveries = p.deliveries ++ (r.visit t p).calls :=
    h.led.deliveries
  rw [hleft] at hinstant
  have hmapped : Instant (r.mapped t (p.begun t.name)).deliveries := by
    rw [(led_mapped r t (p.begun t.name)).deliveries]
    intro d hd
    rcases List.mem_append.mp hd with hearlier | hbefore
    · exact hinstant d (List.mem_append_left _ hearlier)
    · exact hinstant d (List.mem_append_right _ (h.mem_calls (Option.mem_toList.mp hbefore)))
  have hbegun : Timed (p.begun t.name) := hp.congr rfl rfl
  have htime : (r.mapped t (p.begun t.name)).onTaskTime = r.mapped t (p.begun t.name) :=
    hbegun.mapped.onTaskTime_eq hmapped
  have hbefore : Timed (r.briefed t (p.begun t.name)) := hbegun.told .before
  have hbriefed : (r.briefed t (p.begun t.name)).onTaskTime = r.briefed t (p.begun t.name) :=
    hbefore.onTaskTime_eq hmapped
  refine ⟨congrArg _ hbriefed.symm, ?_, congrArg _ htime.symm, ?_⟩
  · show _ ↔ (r.mapped t (p.begun t.name)).onTaskTime.clock < r.ttl
    rw [htime]
    rfl
  · intro draft response _
    have hanswered : Instant (r.answered t draft response (p.begun t.name)).deliveries := by
      intro d hd hmonitor
      rcases List.mem_append.mp hd with hearlier | hcall
      · exact hmapped d hearlier hmonitor
      · rw [List.mem_singleton.mp hcall] at hmonitor
        exact absurd rfl hmonitor
    have hdispatched : Timed (r.dispatched t draft (p.begun t.name)) := hbegun.dispatched draft
    have htimed : Timed (r.answered t draft response (p.begun t.name)) :=
      hdispatched.congr rfl rfl
    exact congrArg _ (htimed.onTaskTime_eq hanswered).symm

/-- A run is not hurried by monitors that take no time. -/
theorem Sane.unhurried_of_instant (h : r.Sane p) (hp : Timed p) {n : Nat}
    (hinstant : Instant (r.advance n p).deliveries) : ∀ v ∈ r.visits n p, Unhurried r v := by
  induction n generalizing p with
  | zero =>
    intro v hv
    cases hv
  | succ n ih =>
    intro v hv
    have hstep := h.stepped
    have hsane := hstep.sane h
    have htimed := hstep.timed hp
    rw [advance_succ] at hinstant
    rw [visits, List.mem_append] at hv
    rcases hv with hmade | hrest
    · generalize r.visit? p = made, r.step p = q at hstep hsane hinstant hmade
      cases hstep with
      | ended => cases hmade
      | cancelled => cases hmade
      | @visited t hready hgo =>
        obtain rfl : v = r.visit t p := (Option.some.inj (Option.mem_toList.mp hmade)).symm
        obtain ⟨status, stage, heq⟩ := settled_eq (r := r) (r.visit t p)
        have hdeliveries :
            (r.settled (r.visit t p)).deliveries = (r.visit t p).left.deliveries := by
          rw [heq]
          rfl
        -- the calls of the first visit are still on record at the end
        rw [(hsane.led_advance n).deliveries, hdeliveries] at hinstant
        exact hready.unhurried_of_instant hp fun d hd => hinstant d (List.mem_append_left _ hd)
    · exact ih hsane htimed hinstant v hrest

end Run

/-! ## §3 Ample time -/

/-- No plugin asks for the time. -/
def Plugin.Registry.Timeless (plugins : Registry) : Prop :=
  ∀ now now' supply name args,
    plugins.invoke ⟨now, supply⟩ name args = plugins.invoke ⟨now', supply⟩ name args

namespace Mapping

variable {plugins : Plugin.Registry} {now now' : Calendar.Instant} {supply : Supply}

theorem evaluate_of_timeless (h : plugins.Timeless) (s : Store) (source : Source) :
    evaluate plugins ⟨now, supply⟩ s source = evaluate plugins ⟨now', supply⟩ s source := by
  cases source with
  | constant | path | typed => rfl
  | call name args =>
    unfold evaluate
    dsimp only
    rw [h now now']

theorem runLine_of_timeless {τ α : Type} (h : plugins.Timeless)
    (read : String → Except LineFault (Line τ))
    (write : Store → α → τ → Option Json → Outcome α) :
    runLine read plugins ⟨now, supply⟩ write = runLine read plugins ⟨now', supply⟩ write := by
  funext line s made
  unfold runLine
  dsimp only
  split
  · rfl
  · rw [evaluate_of_timeless h]

/-- Where no plugin asks for the time, mappings do not depend on it. -/
theorem mapInput_of_timeless (h : plugins.Timeless) (lines : List String) (s : Store) :
    mapInput plugins ⟨now, supply⟩ lines s = mapInput plugins ⟨now', supply⟩ lines s := by
  unfold mapInput
  congr 1
  funext n
  exact runLine_of_timeless h readInput writeInput

theorem mapOutput_of_timeless (h : plugins.Timeless) (allowDecision : Bool) (lines : List String)
    (s : Store) :
    mapOutput plugins ⟨now, supply⟩ allowDecision lines s =
      mapOutput plugins ⟨now', supply⟩ allowDecision lines s := by
  unfold mapOutput
  congr 1
  funext n
  exact runLine_of_timeless h (readOutput allowDecision) writeOutput

end Mapping

/-- When the task of a visit is dispatched, its limit does not reach past the lifetime. -/
def Ample (r : Run W) (v : Visit W) : Prop :=
  (r.mapped v.task v.begun).clock < r.ttl ∧
    (r.mapped v.task v.begun).clock +
      v.task.timeout.getD r.engine.settings.dispatchTimeout ≤ r.ttl

instance (r : Run W) : DecidablePred (Ample r) := fun v =>
  inferInstanceAs (Decidable ((r.mapped v.task v.begun).clock < r.ttl ∧ _ ≤ r.ttl))

namespace Run

variable {r : Run W} {t : Task} {p : Progress W}

/-- A limit that fits into the lifetime is the budget on either clock. -/
theorem budget_of_fits (h : Timed p)
    (hfits : p.clock + t.timeout.getD r.engine.settings.dispatchTimeout ≤ r.ttl) :
    r.budget t p = r.budget t p.onTaskTime := by
  have hlate : p.onTaskTime.clock ≤ p.clock := h.bare_clock_le
  -- on either clock the lifetime does not cut the limit short
  unfold budget
  rw [Nat.min_eq_left (by omega), Nat.min_eq_left (by omega)]

theorem Timed.unhurried_of_ample (h : Timed p) (hplugins : r.engine.plugins.Timeless)
    (hample : Ample r (r.visit t p)) : Unhurried r (r.visit t p) := by
  have hbegun : Timed (p.begun t.name) := h.congr rfl rfl
  have hmapped : Timed (r.mapped t (p.begun t.name)) := hbegun.mapped
  obtain ⟨halive, hfits⟩ := hample
  refine ⟨mapInput_of_timeless hplugins .., ?_, ?_, ?_⟩
  · exact ⟨fun _ => hmapped.bare_clock_le.trans_lt halive, fun _ => halive⟩
  · exact budget_of_fits hmapped hfits
  · intro draft response _
    exact mapOutput_of_timeless hplugins ..

/-- A run is not hurried by monitors that take their time, if there is enough and nobody asks. -/
theorem Sane.unhurried_of_ample (h : r.Sane p) (hp : Timed p)
    (hplugins : r.engine.plugins.Timeless) {n : Nat} (hample : ∀ v ∈ r.visits n p, Ample r v) :
    ∀ v ∈ r.visits n p, Unhurried r v := by
  intro v hv
  obtain ⟨m, t, hready, -, rfl⟩ := h.mem_visits hv
  exact (h.timed_advance hp m).unhurried_of_ample hplugins (hample _ hv)

end Run

/-! ## §4 Runs -/

namespace Run

variable {r : Run W} {script : Script} {t : Task} {p : Progress W}

/-- A host without a memory follows a script without one. -/
theorem Ready.scripted (h : r.Ready p t)
    (hroute : ∀ q, r.routeNow t q = script.route (taskCalls p.deliveries) t)
    (hanswer : ∀ world route request limit,
      let awaited := (r.engine.host.dispatch world route request limit).await limit
      (awaited.answer, awaited.waited) =
        script.answer (taskCalls p.deliveries) route request limit) :
    Scripted script r (r.visit t p) := by
  refine ⟨hroute _, ?_⟩
  intro d hd
  obtain ⟨draft, _, -, rfl⟩ := h.exists_answered hd
  have hwaited : ∀ waited, (r.mapped t (p.begun t.name)).clock + waited -
      (r.mapped t (p.begun t.name)).clock = waited := fun waited => Nat.add_sub_cancel_left ..
  refine Eq.trans ?_ (hanswer (r.mapped t (p.begun t.name)).world _ _ _)
  exact congrArg (Prod.mk _) (hwaited _)

end Run

/-- An ending without the time that it took to get there. -/
def Ending.untimed : Ending → Ending
  | .completed outcome => .completed { outcome with elapsed := 0 }
  | ending => ending

/-- How a bare run stands, seen as an ending. -/
def Bare.ending (b : Bare) : Ending :=
  match b.stage with
  | .completed => .completed (b.inst.outcome 0)
  | .failed failure => .failed failure
  | .next _ => .unfinished

theorem Progress.untimed_ending (p : Progress W) : p.ending.untimed = p.bare.ending := by
  unfold Progress.ending Bare.ending
  show _ = match p.stage with
    | .completed => Ending.completed (p.bare.inst.outcome 0)
    | .failed failure => .failed failure
    | .next _ => .unfinished
  cases p.stage <;> rfl

namespace Engine

open Run

/-- Two engines agree in all but their hosts and how long they wait for a monitor. -/
structure Counterparts {W₁ W₂ : Type} (e₁ : Engine W₁) (e₂ : Engine W₂) : Prop where
  plugins : e₁.plugins = e₂.plugins
  epoch : e₁.epoch = e₂.epoch
  flowTtl : e₁.settings.flowTtl = e₂.settings.flowTtl
  dispatchTimeout : e₁.settings.dispatchTimeout = e₂.settings.dispatchTimeout

theorem Counterparts.setting_eq {W₁ W₂ : Type} {e₁ : Engine W₁} {e₂ : Engine W₂}
    (h : Counterparts e₁ e₂) (flow : Flow) (supply : Supply) :
    (e₁.runOf flow supply).setting = (e₂.runOf flow supply).setting := by
  have httl : (e₁.runOf flow supply).ttl = (e₂.runOf flow supply).ttl :=
    congrArg flow.ttl.getD h.flowTtl
  unfold Run.setting
  rw [httl]
  show Setting.mk e₁.plugins e₁.epoch _ e₁.settings.dispatchTimeout flow _ = _
  rw [h.plugins, h.epoch, h.dispatchTimeout]
  rfl

/-- The run of an order is not cancelled, and a script routes and answers its tasks. Nothing is said
of its monitors, but that the time they take makes no difference. -/
def Performs (script : Script) (e : Engine W) (flow : Flow) (order : Order) (supply : Supply)
    (n : Nat) (world : W) : Prop :=
  ∀ inst, instanceOf flow order supply = .ok inst →
    Run.Performs script (e.runOf flow supply) n ((e.runOf flow supply).start inst world)

/-- A run does what its bare run does. -/
theorem Performs.report_eq {script : Script} {e : Engine W} {flow : Flow} {order : Order}
    {supply : Supply} {n : Nat} {world : W} (h : Performs script e flow order supply n world)
    {inst : Instance} (hinst : instanceOf flow order supply = .ok inst) :
    let bare := (e.runOf flow supply).setting.advance script n
      ⟨{ inst with status := .ready }, [], .next flow.firstTask⟩
    taskCalls (e.runFlow flow order supply n world).deliveries = bare.calls ∧
      (e.runFlow flow order supply n world).ending.untimed = bare.ending := by
  obtain ⟨inst', hopened⟩ := exists_opened e flow order supply
  obtain rfl : inst' = inst := Except.ok.inj (hopened.instanceOf_eq.symm.trans hinst)
  have hbare := (h inst' hinst).bare_advance (hopened.sane world)
  intro bare
  have hstart : ((e.runOf flow supply).advance n
      ((e.runOf flow supply).start inst' world)).bare = bare := hbare
  rw [hopened.report n world]
  refine ⟨?_, ?_⟩
  · rw [← hstart]
    rfl
  · rw [← hstart]
    exact Progress.untimed_ending _

/-- Monitors change nothing. Two runs of an order that are routed and answered by the same script
make the same dispatches, with the same requests, and end alike, whatever monitors are called in
either of them and whatever comes of those calls. -/
theorem monitors_change_nothing {W₁ W₂ : Type} {e₁ : Engine W₁} {e₂ : Engine W₂}
    (hsame : Counterparts e₁ e₂) {script : Script} {flow : Flow} {order : Order} {supply : Supply}
    {n : Nat} {world₁ : W₁} {world₂ : W₂}
    (h₁ : Performs script e₁ flow order supply n world₁)
    (h₂ : Performs script e₂ flow order supply n world₂) :
    let report₁ := e₁.runFlow flow order supply n world₁
    let report₂ := e₂.runFlow flow order supply n world₂
    taskCalls report₁.deliveries = taskCalls report₂.deliveries ∧
      report₁.ending.untimed = report₂.ending.untimed := by
  obtain ⟨inst, hopened⟩ := exists_opened e₁ flow order supply
  obtain ⟨hcalls₁, hending₁⟩ := h₁.report_eq hopened.instanceOf_eq
  obtain ⟨hcalls₂, hending₂⟩ := h₂.report_eq hopened.instanceOf_eq
  rw [hsame.setting_eq flow supply] at hcalls₁ hending₁
  exact ⟨hcalls₁.trans hcalls₂.symm, hending₁.trans hending₂.symm⟩

/-- Records that replace monitors alone leave every route as it is. -/
theorem routeOf_of_monitors {o : Overrides} (h : ∀ entry ∈ o.records, entry.2.route = none)
    (flowId : String) (t : Task) : o.routeOf flowId t = t.route := by
  have hrecord : (o.record (flowId, t.name)).route = none := by
    unfold Overrides.record
    cases hfind : o.records.find? (·.1 == (flowId, t.name)) with
    | none => rfl
    | some entry => exact h entry (List.mem_of_find?_eq_some hfind)
  rw [Overrides.routeOf, hrecord]
  rfl

/-- A flow of two tasks with a monitor each. -/
def audited : Flow where
  definition :=
    { id := "audited"
      firstTask := "collect"
      tasks :=
        [{ name := "collect", route := "worker.v1", execution := .sequential,
           input := ["input.value -> value"], output := ["result.value -> model.value"],
           next := ["report"], monitorBefore := some "audit.v1" },
         { name := "report", route := "worker.v1", execution := .finish,
           input := ["model.value -> value"], output := ["result.value -> output.value"],
           monitorAfter := some "audit.v1" }] }
  valid := by decide +kernel

/-- An engine whose functions give back what they are sent, after a while. Of the monitors,
`broken.v1` answers by an error and no other answers at all. -/
def muted (overrides : Overrides) : Engine Unit where
  plugins := .empty
  settings := {}
  host :=
    { dispatch := fun _ route request _ =>
        if route = "worker.v1" then
          { delay := some 10, answer := .ok (.ok request.body), answered := (), abandoned := () }
        else
          { delay := if route = "broken.v1" then some 3 else none,
            answer := .error (.dispatch route "no one there"), answered := (), abandoned := () }
      cancelled := fun _ _ => false
      overrides := fun _ => overrides }
  epoch := ⟨0, 0⟩

/-- What tasks get from such an engine. -/
def worker : Script where
  route := fun _ t => t.route
  answer := fun _ route request limit =>
    let awaited := ((muted .empty).host.dispatch () route request limit).await limit
    (awaited.answer, awaited.waited)

/-- No monitors at all. -/
def unwatched : Overrides :=
  ⟨[(("audited", "collect"), { before := some .cleared }),
    (("audited", "report"), { after := some .cleared })]⟩

/-- One more monitor, and a broken one. -/
def watched : Overrides :=
  ⟨[(("audited", "collect"), { after := some (.set "broken.v1") })]⟩

def auditOrder : Order := ⟨"audited", .obj [("value", .bool true)], some "c-1"⟩

theorem muted_performs {overrides : Overrides}
    (hmonitors : ∀ entry ∈ overrides.records, entry.2.route = none)
    (hample : ∀ inst, instanceOf audited auditOrder ⟨0⟩ = .ok inst →
      let r := (muted overrides).runOf audited ⟨0⟩
      ∀ v ∈ r.visits 2 (r.start inst ()), Ample r v) :
    Performs worker (muted overrides) audited auditOrder ⟨0⟩ 2 () := by
  intro inst hinst
  obtain ⟨inst', hopened⟩ := exists_opened (muted overrides) audited auditOrder ⟨0⟩
  obtain rfl : inst' = inst := Except.ok.inj (hopened.instanceOf_eq.symm.trans hinst)
  have hsane := hopened.sane ()
  have htimeless : (muted overrides).plugins.Timeless := fun _ _ _ _ _ => rfl
  refine ⟨fun _ _ _ _ => rfl, ?_, hsane.unhurried_of_ample rfl htimeless (hample inst' hinst)⟩
  intro v hv
  obtain ⟨m, t, hready, -, rfl⟩ := hsane.mem_visits hv
  exact hready.scripted (fun _ => routeOf_of_monitors hmonitors _ t) fun _ _ _ _ => rfl

/-- Two runs, one of them without monitors and the other with three, of which two do not answer and
one fails. -/
theorem monitors_change_nothing_audited :
    let report₁ := (muted unwatched).runFlow audited auditOrder ⟨0⟩ 2 ()
    let report₂ := (muted watched).runFlow audited auditOrder ⟨0⟩ 2 ()
    (report₁.deliveries.length = 2 ∧ report₂.deliveries.length = 5) ∧
      taskCalls report₁.deliveries = taskCalls report₂.deliveries ∧
      report₁.ending.untimed = report₂.ending.untimed := by
  intro report₁ report₂
  have hunwatched : Performs worker (muted unwatched) audited auditOrder ⟨0⟩ 2 () := by
    refine muted_performs (by decide) fun inst hinst => ?_
    cases hinst
    decide +kernel
  have hwatched : Performs worker (muted watched) audited auditOrder ⟨0⟩ 2 () := by
    refine muted_performs (by decide) fun inst hinst => ?_
    cases hinst
    decide +kernel
  have hcounterparts : Counterparts (muted unwatched) (muted watched) := ⟨rfl, rfl, rfl, rfl⟩
  have hsame := monitors_change_nothing hcounterparts hunwatched hwatched
  exact ⟨by decide +kernel, hsame⟩

end Engine

end TaskFlow
