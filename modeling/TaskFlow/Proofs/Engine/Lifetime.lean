/-
TaskFlow.Proofs.Engine.Lifetime — the lifetime of an instance bounds its dispatches.

The clock of a run is looked at in one place, before a dispatch: with nothing left of the lifetime
the task is not dispatched, and else what is left is the most that the dispatch may take. So every
dispatch begins and ends within the lifetime, however long the monitors around it take, and a flow
that goes round in circles can only do so until its time is up. `Spent` is the one case analysis
behind all of this: how a visit spends its time.

  §1 Waits   — how long a run waits for a call.
  §2 Clocks  — what monitors do to the clock.
  §3 Spent   — how a visit spends its time.
  §4 Endings — a visit that fails, and the ending of its run.
  §5 Pace    — dispatches that take their time are few.
  §6 Runs    — all of it, of every run, and of one that goes round in circles.
-/
import Mathlib.Algebra.Order.Floor.Div
import TaskFlow.Proofs.Engine.Calls

namespace TaskFlow

open TaskFlow.Mapping

variable {W : Type}

/-! ## §1 Waits -/

namespace Call

variable {call : Call W} {limit millis : Nat}

/-- The answer takes so many milliseconds or more, if it comes at all. -/
def TakesAtLeast (call : Call W) (millis : Nat) : Prop :=
  ∀ delay, call.delay = some delay → millis ≤ delay

/-- Nobody waits longer than the limit. -/
theorem waited_le (call : Call W) (limit : Nat) : (call.await limit).waited ≤ limit := by
  unfold await
  split
  · split
    · next delay _ hin =>
      show delay ≤ limit
      omega
    · exact Nat.le_refl limit
  · exact Nat.le_refl limit

/-- An answer that takes longer than the limit does not come. -/
theorem answer_of_slow (h : call.TakesAtLeast (limit + 1)) : (call.await limit).answer = none := by
  unfold await
  split
  · next delay hdelay =>
    have hlate : limit + 1 ≤ delay := h delay hdelay
    rw [if_neg (by omega)]
  · rfl

/-- An answer that comes has taken its time. -/
theorem le_waited (h : call.TakesAtLeast millis) (hanswer : (call.await limit).answer ≠ none) :
    millis ≤ (call.await limit).waited := by
  unfold await at hanswer ⊢
  split at hanswer
  · next delay hdelay =>
    split at hanswer
    · next hin =>
      rw [if_pos hin]
      exact h delay hdelay
    · exact absurd rfl hanswer
  · exact absurd rfl hanswer

end Call

/-- A call on record, as the host was asked. -/
def Delivery.call (host : Host W) (d : Delivery W) : Call W :=
  host.dispatch d.world d.route d.request d.limit

namespace Run

variable {r : Run W} {t : Task} {p : Progress W}

/-! ## §2 Clocks -/

theorem told_clock (position : Position) (p : Progress W) :
    (r.told t position p).clock =
      ((r.monitorCall? t position p).map (·.settled)).getD p.clock := by
  unfold told monitorCall?
  cases (r.engine.host.overrides p.world).monitorOf r.flow.id t position <;> rfl

/-- The call of a monitor begins now and ends within its limit. -/
theorem settled_monitorCall? {position : Position} {d : Delivery W}
    (h : d ∈ r.monitorCall? t position p) :
    p.clock ≤ d.settled ∧ d.settled ≤ p.clock + r.engine.settings.monitorTimeout := by
  obtain ⟨route, -, rfl⟩ := Option.map_eq_some_iff.mp h
  exact ⟨Nat.le_add_right .., Nat.add_le_add_left (Call.waited_le ..) _⟩

theorem clock_le_told (position : Position) (p : Progress W) :
    p.clock ≤ (r.told t position p).clock := by
  rw [told_clock]
  cases h : r.monitorCall? t position p with
  | none => exact Nat.le_refl _
  | some d => exact (settled_monitorCall? h).1

end Run

/-! ## §3 Spent -/

/-- The dispatch of the task of a visit, made while the instance lives and limited by what is left
of its lifetime. -/
structure Timely (r : Run W) (v : Visit W) (d : Delivery W) : Prop where
  sent : d.sent = (r.mapped v.task v.begun).clock
  alive : d.sent < r.ttl
  limit : d.limit = min (v.task.timeout.getD r.engine.settings.dispatchTimeout) (r.ttl - d.sent)
  settled : d.settled = d.sent + (d.awaited r.engine.host).waited
  answer : d.answer = (d.awaited r.engine.host).answer

/-- The input of the task of a visit was mapped when nothing was left of the lifetime. -/
structure Late (r : Run W) (v : Visit W) : Prop where
  drafted : ∃ draft, (r.inputOutcome v.task.input (r.briefed v.task v.begun)).result = .ok draft
  elapsed : r.ttl ≤ (r.mapped v.task v.begun).clock

theorem late_iff {r : Run W} {v : Visit W} :
    Late r v ↔
      (r.inputOutcome v.task.input (r.briefed v.task v.begun)).result.isOk = true ∧
        r.ttl ≤ (r.mapped v.task v.begun).clock := by
  constructor
  · rintro ⟨⟨draft, hdraft⟩, helapsed⟩
    exact ⟨by rw [hdraft]; rfl, helapsed⟩
  · rintro ⟨hok, helapsed⟩
    refine ⟨?_, helapsed⟩
    cases hinput : (r.inputOutcome v.task.input (r.briefed v.task v.begun)).result with
    | ok draft => exact ⟨draft, rfl⟩
    | error e =>
      rw [hinput] at hok
      cases hok

instance (r : Run W) : DecidablePred (Late r) := fun _ =>
  decidable_of_iff _ late_iff.symm

/-- How a visit spends its time. -/
inductive Spent (r : Run W) (v : Visit W) : Prop
  /-- The input mapping fails, and nothing is dispatched. -/
  | unmapped {e : Error} (dispatches : v.dispatches = [])
      (input : (r.inputOutcome v.task.input (r.briefed v.task v.begun)).result = .error e)
      (result : v.result = .error e)
  /-- With nothing left of the lifetime, nothing is dispatched. -/
  | expired (dispatches : v.dispatches = []) (late : Late r v)
      (result : v.result =
        .error (.timeout (r.routeNow v.task (r.mapped v.task v.begun)) r.ttl))
  /-- The task is dispatched in vain, and the visit is over when the wait is. -/
  | failed {d : Delivery W} {e : Error} (dispatches : v.dispatches = [d]) (timely : Timely r v d)
      (result : v.result = .error e)
      (unanswered : d.answer = none → e = .timeout d.route d.limit)
      (left : v.left.clock = d.settled)
  /-- The task is dispatched and answered, and the visit is over when the monitor after it is. -/
  | succeeded {d : Delivery W} {after : Option (Delivery W)} {decision : Option Json}
      (dispatches : v.dispatches = [d]) (timely : Timely r v d) (answered : d.answer ≠ none)
      (result : v.result = .ok decision)
      (last : v.left.deliveries.getLast? = some (after.getD d))
      (monitor : ∀ m ∈ after, m.purpose = .monitor .after ∧ d.settled ≤ m.settled ∧
        m.settled ≤ d.settled + r.engine.settings.monitorTimeout)
      (left : v.left.clock = (after.getD d).settled)

namespace Timely

variable {r : Run W} {v : Visit W} {d : Delivery W}

theorem settled_le (h : Timely r v d) : d.settled ≤ r.ttl := by
  have hwaited : (d.awaited r.engine.host).waited ≤ d.limit := Call.waited_le ..
  have hlimit : d.limit ≤ r.ttl - d.sent := h.limit ▸ Nat.min_le_right ..
  have halive := h.alive
  rw [h.settled]
  omega

theorem arrived_le (h : Timely r v d) : v.arrived.clock ≤ d.sent := by
  rw [h.sent]
  exact Run.clock_le_told .before v.begun

theorem answer_of_slow (h : Timely r v d)
    (hslow : (d.call r.engine.host).TakesAtLeast (d.limit + 1)) : d.answer = none := by
  rw [h.answer]
  exact Call.answer_of_slow hslow

/-- A dispatch that is answered has taken its time. -/
theorem le_settled (h : Timely r v d) (hanswered : d.answer ≠ none) {pace : Nat}
    (hpace : (d.call r.engine.host).TakesAtLeast pace) : d.sent + pace ≤ d.settled := by
  rw [h.answer] at hanswered
  rw [h.settled]
  exact Nat.add_le_add_left (Call.le_waited hpace hanswered) d.sent

end Timely

namespace Spent

variable {r : Run W} {v : Visit W} {d : Delivery W}

theorem timely (h : Spent r v) (hd : d ∈ v.dispatches) : Timely r v d := by
  cases h with
  | unmapped dispatches | expired dispatches =>
    rw [dispatches] at hd
    cases hd
  | failed dispatches timely | succeeded dispatches timely =>
    rw [dispatches] at hd
    rwa [List.mem_singleton.mp hd]

/-- A dispatch slower than its limit fails its visit. -/
theorem result_of_slow (h : Spent r v) (hd : d ∈ v.dispatches)
    (hslow : (d.call r.engine.host).TakesAtLeast (d.limit + 1)) :
    v.result = .error (.timeout d.route d.limit) := by
  have hnone : d.answer = none := (h.timely hd).answer_of_slow hslow
  cases h with
  | unmapped dispatches | expired dispatches =>
    rw [dispatches] at hd
    cases hd
  | failed dispatches _ result unanswered =>
    rw [dispatches] at hd
    obtain rfl := List.mem_singleton.mp hd
    rw [result, unanswered hnone]
  | succeeded dispatches _ answered =>
    rw [dispatches] at hd
    obtain rfl := List.mem_singleton.mp hd
    exact absurd hnone answered

/-- A late visit dispatches nothing and fails. -/
theorem of_late (h : Spent r v) (hlate : Late r v) :
    v.dispatches = [] ∧
      v.result = .error (.timeout (r.routeNow v.task (r.mapped v.task v.begun)) r.ttl) := by
  obtain ⟨⟨draft, hdraft⟩, hover⟩ := hlate
  cases h with
  | unmapped _ input => cases hdraft.symm.trans input
  | expired dispatches _ result => exact ⟨dispatches, result⟩
  | failed _ timely | succeeded _ timely =>
    have halive := timely.alive
    rw [timely.sent] at halive
    exact absurd halive (Nat.not_lt.mpr hover)

end Spent

namespace Run

variable {r : Run W} {t : Task} {p : Progress W}

theorem timely_taskCall {draft : Draft} {answer : Option (Except Error Response)}
    (h : r.Answered t (p.begun t.name) draft answer) :
    Timely r (r.visit t p) (r.taskCall t draft (r.mapped t (p.begun t.name))).1 :=
  ⟨rfl, h.alive, rfl, rfl, rfl⟩

/-- The last call of a visit whose phases succeed, and the time when it ends. -/
theorem reported_last (draft : Draft) (response : Response) (p : Progress W) :
    let after := r.monitorCall? t .after (r.digested t draft response p)
    let last := after.getD (r.taskCall t draft (r.mapped t p)).1
    (r.reported t draft response p).deliveries.getLast? = some last ∧
      (r.reported t draft response p).clock = last.settled := by
  dsimp only
  rw [(led_reported r t draft response p).deliveries, reported, told_clock]
  cases r.monitorCall? t .after (r.digested t draft response p) with
  | none => exact ⟨by simp, rfl⟩
  | some m => exact ⟨by simp, rfl⟩

/-- Every visit spends its time in one of these ways. -/
theorem Ready.spent (h : r.Ready p t) : Spent r (r.visit t p) := by
  have hserved := h.served
  generalize hresult : (r.visit t p).result = result, hleft : (r.visit t p).left = q at hserved
  have hclock : (r.visit t p).left.clock = q.clock := by rw [hleft]
  cases hserved with
  | unmapped hin =>
    refine .unmapped (h.dispatches_of_not_answered ?_) hin hresult
    intro draft answer hanswered
    cases hin.symm.trans hanswered.drafted
  | expired hin hover =>
    refine .expired (h.dispatches_of_not_answered ?_) ⟨⟨_, hin⟩, hover⟩ hresult
    intro draft answer hanswered
    exact Nat.not_lt.mpr hover hanswered.alive
  | unanswered hanswered =>
    exact .failed (h.dispatches_of_answered hanswered) (timely_taskCall hanswered) hresult
      (fun _ => rfl) hclock
  | rejected hanswered | refused hanswered | undigested hanswered =>
    refine .failed (h.dispatches_of_answered hanswered) (timely_taskCall hanswered) hresult ?_ hclock
    intro hnone
    cases hnone.symm.trans hanswered.answer_eq
  | @done draft response decision hanswered =>
    obtain ⟨hlast, hsettled⟩ := reported_last (r := r) (t := t) draft response (p.begun t.name)
    rw [← hleft] at hlast hsettled
    refine .succeeded (h.dispatches_of_answered hanswered) (timely_taskCall hanswered) ?_ hresult
      hlast ?_ hsettled
    · rw [hanswered.answer_eq]
      exact Option.some_ne_none _
    · intro m hm
      exact ⟨(monitored_monitorCall? _ _).purpose m hm, settled_monitorCall? hm⟩

/-! ## §4 Endings -/

theorem Sane.spent (h : r.Sane p) {n : Nat} {v : Visit W} (hv : v ∈ r.visits n p) : Spent r v := by
  obtain ⟨m, t, hready, -, rfl⟩ := h.mem_visits hv
  exact hready.spent

/-- A visit whose phases fail fails the run. -/
theorem Sane.ending_of_error (h : r.Sane p) {n : Nat} {v : Visit W} (hv : v ∈ r.visits n p)
    {e : Error} (hresult : v.result = .error e) :
    (r.advance n p).ending = .failed ⟨r.flow.id, some v.task.name, e⟩ := by
  have hcause : v.conclusion = .error e := by
    rw [Visit.conclusion, hresult]
    rfl
  obtain ⟨front, back, hvisits⟩ := List.append_of_mem hv
  exact Engine.ending_failed_iff.mpr (h.advance_failed hvisits hcause).2

/-! ## §5 Pace -/

/-- The number of tasks dispatched. -/
def dispatchCount (p : Progress W) : Nat :=
  (p.deliveries.filter (·.purpose = .task)).length

/-- After so many steps of a run whose dispatches take their time: no more tasks have been dispatched
than fit into the lifetime, the last of them perhaps in part, and while the run is going, each step
has dispatched one and the clock shows the time they took. -/
structure Paced (r : Run W) (pace steps : Nat) (p : Progress W) : Prop where
  few : dispatchCount p * pace < r.ttl + pace
  going : ∀ name, p.stage = .next name → dispatchCount p = steps ∧ steps * pace ≤ p.clock

theorem dispatchCount_append {q : Progress W} {calls : List (Delivery W)}
    (h : q.deliveries = p.deliveries ++ calls) :
    dispatchCount q = dispatchCount p + (calls.filter (·.purpose = .task)).length := by
  rw [dispatchCount, h, List.filter_append, List.length_append]
  rfl

/-- A visit adds what it dispatches, and drawing its conclusion takes no time. -/
theorem Ready.settled_dispatches (h : r.Ready p t) :
    dispatchCount (r.settled (r.visit t p)) = dispatchCount p + (r.visit t p).dispatches.length ∧
      (r.settled (r.visit t p)).clock = (r.visit t p).left.clock := by
  obtain ⟨status, stage, heq⟩ := Run.settled_eq (r := r) (r.visit t p)
  rw [heq]
  exact ⟨dispatchCount_append h.led.deliveries, rfl⟩

theorem Ready.ended_of_error (h : r.Ready p t) {e : Error}
    (hresult : (r.visit t p).result = .error e) (name : String) :
    (r.settled (r.visit t p)).stage ≠ .next name := by
  intro hnext
  obtain ⟨decision, hok, -⟩ := conclusion_eq_ok (h.conclusion_of_stage hnext)
  cases hok.symm.trans hresult

/-- A dispatch made while the instance lives is one of those that fit. -/
theorem Paced.room {pace steps : Nat} (h : Paced r pace steps p) {name : String}
    (hstage : p.stage = .next name) (halive : p.clock < r.ttl) :
    (dispatchCount p + 1) * pace < r.ttl + pace := by
  obtain ⟨hcount, hclock⟩ := h.going name hstage
  rw [hcount, Nat.succ_mul]
  omega

theorem Ready.paced (h : r.Ready p t) {pace steps : Nat} (hpaced : Paced r pace steps p)
    (hpace : ∀ d ∈ (r.visit t p).dispatches, (d.call r.engine.host).TakesAtLeast pace) :
    Paced r pace (steps + 1) (r.settled (r.visit t p)) := by
  obtain ⟨hcount, hclock⟩ := h.settled_dispatches
  obtain ⟨hsteps, hspent⟩ := hpaced.going t.name h.stage
  cases h.spent with
  | unmapped dispatches _ result | expired dispatches _ result =>
    rw [dispatches] at hcount
    exact ⟨hcount ▸ hpaced.few, fun name hnext => absurd hnext (h.ended_of_error result name)⟩
  | failed dispatches timely result =>
    rw [dispatches] at hcount
    have hroom := hpaced.room h.stage (timely.arrived_le.trans_lt timely.alive)
    exact ⟨hcount ▸ hroom, fun name hnext => absurd hnext (h.ended_of_error result name)⟩
  | @succeeded d after _ dispatches timely answered _ _ monitor left =>
    rw [dispatches] at hcount hpace
    have hroom := hpaced.room h.stage (timely.arrived_le.trans_lt timely.alive)
    refine ⟨hcount ▸ hroom, ?_⟩
    intro name _
    have hsent : p.clock ≤ d.sent := timely.arrived_le
    have hsettled := timely.le_settled answered (hpace d (List.mem_singleton_self d))
    have hlast : d.settled ≤ (r.settled (r.visit t p)).clock := by
      rw [hclock, left]
      cases after with
      | none => exact Nat.le_refl _
      | some m => exact (monitor m rfl).2.1
    rw [hcount, hsteps, Nat.succ_mul]
    exact ⟨rfl, by omega⟩

/-- A run whose dispatches take their time keeps the pace. -/
theorem Sane.paced (h : r.Sane p) {pace steps : Nat} (hpaced : Paced r pace steps p) {n : Nat}
    (hpace : ∀ v ∈ r.visits n p, ∀ d ∈ v.dispatches,
      (d.call r.engine.host).TakesAtLeast pace) :
    Paced r pace (steps + n) (r.advance n p) := by
  induction n generalizing p steps with
  | zero => exact hpaced
  | succ n ih =>
    have hstep := h.stepped
    have hq := hstep.sane h
    rw [visits] at hpace
    rw [advance_succ, Nat.add_comm n, ← Nat.add_assoc]
    have hrest := fun v hv => hpace v (List.mem_append_right _ hv)
    refine ih hq ?_ hrest
    generalize r.visit? p = made, r.step p = q at hstep hpace
    cases hstep with
    | ended hended =>
      exact ⟨hpaced.few, fun name hnext => absurd hnext (hended name)⟩
    | @cancelled t hready =>
      obtain ⟨status, stage, heq⟩ := cancelledBefore_eq (r := r) t.name p
      refine ⟨?_, fun name hnext => absurd hnext (hready.cancelledBefore_ended name)⟩
      rw [heq]
      exact hpaced.few
    | visited hready =>
      exact hready.paced hpaced (hpace _ (List.mem_append_left _ (List.mem_singleton_self _)))

theorem start_paced (r : Run W) (inst : Instance) (world : W) {pace : Nat} (hpace : 0 < pace) :
    Paced r pace 0 (r.start inst world) := by
  refine ⟨?_, ?_⟩
  · show 0 * pace < r.ttl + pace
    omega
  · intro name _
    exact ⟨rfl, Nat.le_of_eq (Nat.zero_mul pace)⟩

theorem Paced.dispatchCount_le {pace steps : Nat} (h : Paced r pace steps p) (hpace : 0 < pace) :
    dispatchCount p ≤ r.ttl ⌈/⌉ pace := by
  have hfew := h.few
  rw [Nat.ceilDiv_eq_add_pred_div, Nat.le_div_iff_mul_le hpace]
  omega

end Run

/-! ## §6 Runs -/

namespace Engine

open Run

/-- The lifetime of an instance bounds its dispatches. Each is made while the instance lives, may
take as long as its task or the settings allow within what is left, and is over by the end of the
lifetime; if it takes longer than it may, the run fails by a timeout of that route and that limit. A
task whose input is mapped when nothing is left is not dispatched, and the run fails by a timeout of
its route and the lifetime. So if every dispatch takes some time, the run has ended when as many of
them have been made as fill the lifetime. -/
theorem runFlow_lifetime (e : Engine W) (flow : Flow) (order : Order) (supply : Supply) (n : Nat)
    (world : W) :
    ∃ inst, instanceOf flow order supply = .ok inst ∧
      let r := e.runOf flow supply
      let visits := r.visits n (r.start inst world)
      let report := e.runFlow flow order supply n world
      let ttl := flow.ttl.getD e.settings.flowTtl
      report.deliveries = visits.flatMap Visit.calls ∧
      (∀ v ∈ visits, ∀ d ∈ v.dispatches,
        d.sent < ttl ∧
        d.limit = min (v.task.timeout.getD e.settings.dispatchTimeout) (ttl - d.sent) ∧
        d.settled ≤ ttl ∧
        ((d.call e.host).TakesAtLeast (d.limit + 1) →
          report.ending = .failed ⟨flow.id, some v.task.name, .timeout d.route d.limit⟩)) ∧
      (∀ v ∈ visits, Late r v → v.dispatches = [] ∧
        report.ending = .failed ⟨flow.id, some v.task.name,
          .timeout (r.routeNow v.task (r.mapped v.task v.begun)) ttl⟩) ∧
      ∀ pace, 0 < pace →
        (∀ v ∈ visits, ∀ d ∈ v.dispatches, (d.call e.host).TakesAtLeast pace) →
        (report.deliveries.filter (·.purpose = .task)).length ≤ ttl ⌈/⌉ pace ∧
        (ttl ⌈/⌉ pace < n → report.ending ≠ .unfinished) := by
  obtain ⟨inst, hopened⟩ := exists_opened e flow order supply
  refine ⟨inst, hopened.instanceOf_eq, ?_⟩
  intro r visits report ttl
  have hsane : r.Sane (r.start inst world) := hopened.sane world
  have hreport : report = (r.advance n (r.start inst world)).report := hopened.report n world
  rw [hreport]
  refine ⟨(hsane.led_advance n).deliveries, ?_, ?_, ?_⟩
  · intro v hv d hd
    have hspent : Spent r v := hsane.spent hv
    have htimely := hspent.timely hd
    refine ⟨htimely.alive, htimely.limit, htimely.settled_le, ?_⟩
    intro hslow
    exact hsane.ending_of_error hv (hspent.result_of_slow hd hslow)
  · intro v hv hlate
    obtain ⟨hnone, hresult⟩ := (hsane.spent hv).of_late hlate
    exact ⟨hnone, hsane.ending_of_error hv hresult⟩
  · intro pace hpace htakes
    have hpaced : Paced r pace (0 + n) (r.advance n (r.start inst world)) :=
      hsane.paced (start_paced r inst world hpace) htakes
    have hfew := hpaced.dispatchCount_le hpace
    refine ⟨hfew, ?_⟩
    intro hmore hgoing
    obtain ⟨name, hstage⟩ := ending_unfinished_iff.mp hgoing
    obtain ⟨hcount, -⟩ := hpaced.going name hstage
    rw [hcount, Nat.zero_add] at hfew
    exact absurd hmore (Nat.not_lt.mpr hfew)

/-- A flow that asks a function over and over until it is done, told to a monitor each time, with a
lifetime of one second. -/
def polling : Flow where
  definition :=
    { id := "poll"
      ttl := some 1000
      firstTask := "ask"
      tasks :=
        [{ name := "ask", route := "worker.v1", execution := .decision,
           input := ["input.done -> done"], output := ["result.done -> decision"],
           next := ["end", "ask"], monitorBefore := some "audit.v1" },
         { name := "end", route := "worker.v1", execution := .finish }] }
  valid := by decide +kernel

/-- An engine whose functions give back what they are sent, the monitor after so many milliseconds
and any other after 400. -/
def pacing (audit : Nat) : Engine Unit where
  plugins := .empty
  settings := {}
  host :=
    { dispatch := fun _ route request _ =>
        { delay := some (if route = "audit.v1" then audit else 400),
          answer := .ok (.ok request.body), answered := (), abandoned := () }
      cancelled := fun _ _ => false
      overrides := fun _ => .empty }
  epoch := ⟨0, 0⟩

/-- The order of a poll that is never done. -/
def pollOrder : Order := ⟨"poll", .obj [("done", .bool false)], some "c"⟩

/-- A function other than the monitor takes its 400 milliseconds. -/
theorem takesAtLeast_pacing {audit millis : Nat} {d : Delivery Unit} (hroute : d.route ≠ "audit.v1")
    (hmillis : millis ≤ 400) : (d.call (pacing audit).host).TakesAtLeast millis := by
  intro delay hdelay
  have htakes : (d.call (pacing audit).host).delay = some 400 := congrArg some (if_neg hroute)
  rw [htakes] at hdelay
  exact Option.some.inj hdelay ▸ hmillis

/-- The flow goes round until its second is over. With a monitor that answers at once, the third
dispatch may only take the 200 milliseconds that are left, and is the last. With a monitor that
takes 300 milliseconds, nothing is left after the second one, and its task is not dispatched. -/
theorem polling_lifetime :
    ∃ inst, instanceOf polling pollOrder ⟨0⟩ = .ok inst ∧
      let run audit := (pacing audit).runOf polling ⟨0⟩
      let visits audit := (run audit).visits 4 ((run audit).start inst ())
      let report audit := (pacing audit).runFlow polling pollOrder ⟨0⟩ 4 ()
      (∃ v ∈ visits 0, ∃ d ∈ v.dispatches, d.limit = 200 ∧
        (d.call (pacing 0).host).TakesAtLeast (d.limit + 1) ∧
        (report 0).ending = .failed ⟨"poll", some v.task.name, .timeout d.route d.limit⟩) ∧
      (∃ v ∈ visits 300, Late (run 300) v ∧ v.dispatches = [] ∧
        (report 300).ending = .failed ⟨"poll", some v.task.name,
          .timeout ((run 300).routeNow v.task ((run 300).mapped v.task v.begun)) 1000⟩) ∧
      (∀ v ∈ visits 0, ∀ d ∈ v.dispatches, (d.call (pacing 0).host).TakesAtLeast 400) ∧
      ((report 0).deliveries.filter (·.purpose = .task)).length ≤ 3 ∧
      (report 0).ending ≠ .unfinished := by
  obtain ⟨inst, hinst, -, hslow, -, hpace⟩ :=
    runFlow_lifetime (pacing 0) polling pollOrder ⟨0⟩ 4 ()
  obtain ⟨inst', hinst', -, -, hlate, -⟩ :=
    runFlow_lifetime (pacing 300) polling pollOrder ⟨0⟩ 4 ()
  obtain rfl : inst' = inst := Except.ok.inj (hinst'.symm.trans hinst)
  refine ⟨inst', hinst, ?_⟩
  cases hinst
  intro run visits report
  have hworker : ∀ v ∈ visits 0, ∀ d ∈ v.dispatches, d.route ≠ "audit.v1" := by decide +kernel
  have hcut : ∃ v ∈ visits 0, ∃ d ∈ v.dispatches, d.limit = 200 := by decide +kernel
  have hover : ∃ v ∈ visits 300, Late (run 300) v := by decide +kernel
  refine ⟨?_, ?_, ?_⟩
  · obtain ⟨v, hv, d, hd, hlimit⟩ := hcut
    have hshort : d.limit + 1 ≤ 400 := by omega
    have htakes : (d.call (pacing 0).host).TakesAtLeast (d.limit + 1) :=
      takesAtLeast_pacing (hworker v hv d hd) hshort
    exact ⟨v, hv, d, hd, hlimit, htakes, (hslow v hv d hd).2.2.2 htakes⟩
  · obtain ⟨v, hv, hlatevisit⟩ := hover
    exact ⟨v, hv, hlatevisit, hlate v hv hlatevisit⟩
  · have htakes : ∀ v ∈ visits 0, ∀ d ∈ v.dispatches,
        (d.call (pacing 0).host).TakesAtLeast 400 :=
      fun v hv d hd => takesAtLeast_pacing (hworker v hv d hd) (Nat.le_refl 400)
    obtain ⟨hfew, hended⟩ := hpace 400 (by decide) htakes
    exact ⟨htakes, hfew, hended (by decide)⟩

end Engine

end TaskFlow
