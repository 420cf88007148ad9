/-
TaskFlow.Proofs.Engine.Overrun — the runs that outlive their lifetime.

A run looks at the clock where it is about to dispatch a task, and nowhere else. Time that monitors
spend before that point, in front of the task or behind an earlier one, is noticed there and stops
the run by a timeout. Behind the last task there is no such point: a run whose last monitor is slow
enough completes after its lifetime is over. The promise that a lifetime makes of a run is therefore
kept exactly by the runs that end in time and by those that the look at the clock has stopped.

  §1 Bounded   — what a lifetime promises of a run that has ended.
  §2 Timeouts  — a run that fails by a timeout has ended in time, or one of its tasks was late.
  §3 Completed — a run that completes, and its last call.
  §4 Overdue   — a run that is still going when its time is up.
  §5 Runs      — all of it, of every run, and a run that completes late.
-/
import TaskFlow.Proofs.Engine.Lifetime

namespace TaskFlow

open TaskFlow.Mapping

variable {W : Type}

/-! ## §1 Bounded -/

/-- The promise of a lifetime, both in milliseconds, to a run that has ended so at such a time: it
has taken no longer if it completed, and if it has taken longer, it failed by a timeout. -/
structure Bounded (ttl clock : Nat) (ending : Ending) : Prop where
  completed : ∀ outcome, ending = .completed outcome → outcome.elapsed ≤ ttl * 1000000
  overdue : ttl < clock → ∃ flowId task route millis,
    ending = .failed ⟨flowId, task, .timeout route millis⟩

theorem bounded_of_in_time {ttl : Nat} {p : Progress W} (h : p.clock ≤ ttl) :
    Bounded ttl p.clock p.ending := by
  refine ⟨?_, fun hover => absurd h (Nat.not_le.mpr hover)⟩
  intro outcome hcompleted
  obtain ⟨-, rfl⟩ := Engine.ending_completed_iff.mp hcompleted
  exact Nat.mul_le_mul_right 1000000 h

/-! ## §2 Timeouts -/

theorem mapInput_ne_timeout {plugins : Plugin.Registry} {ambient : Plugin.Ambient}
    {lines : List String} {s : Store} {route : String} {millis : Nat} :
    (mapInput plugins ambient lines s).result ≠ .error (.timeout route millis) := by
  intro htimeout
  rcases mapInput_eq_error htimeout with ⟨line, -, t, fault, -, heq⟩ | ⟨cause, heq⟩ | ⟨fault, heq⟩
  · cases heq
  · cases heq
  · cases heq

/-- A visit that fails by a timeout is over in time, or was late. -/
theorem Spent.of_timeout {r : Run W} {v : Visit W} (h : Spent r v) {route : String} {millis : Nat}
    (hresult : v.result = .error (.timeout route millis)) : v.left.clock ≤ r.ttl ∨ Late r v := by
  cases h with
  | unmapped _ input result =>
    rw [Except.error.inj (result.symm.trans hresult)] at input
    exact absurd input mapInput_ne_timeout
  | expired _ late => exact Or.inr late
  | failed _ timely _ _ left => exact Or.inl (left ▸ timely.settled_le)
  | succeeded _ _ _ result => cases result.symm.trans hresult

namespace Run

variable {r : Run W} {t : Task} {p : Progress W}

/-- A run that fails by a timeout has ended in time, or one of its tasks was late. -/
theorem Sane.of_timeout (h : r.Sane p) (hstage : p.stage = .next r.flow.firstTask)
    (hexecuted : p.inst.executed = []) {n : Nat} {flowId : String} {task : Option String}
    {route : String} {millis : Nat}
    (hfailed : (r.advance n p).stage = .failed ⟨flowId, task, .timeout route millis⟩) :
    (r.advance n p).clock ≤ r.ttl ∨ ∃ v ∈ r.visits n p, Late r v := by
  have hblamed := h.advance_blamed hstage hexecuted hfailed
  generalize hvisits : r.visits n p = visits at hblamed ⊢
  -- a cancellation is no timeout, so a step has failed
  cases hblamed with
  | @step front v _ hcause =>
    have hv : v ∈ front ++ [v] := List.mem_concat_self
    obtain ⟨status, stage, hadvance⟩ := h.advance_of_last hvisits
    have hspent := h.spent (hvisits ▸ hv)
    obtain ⟨m, t, hready, -, rfl⟩ := h.mem_visits (hvisits ▸ hv)
    cases hresult : (r.visit t (r.advance m p)).result with
    | error e =>
      rw [Visit.conclusion, hresult] at hcause
      rw [Except.error.inj hcause] at hresult
      rcases hspent.of_timeout hresult with hclock | hlate
      · rw [hadvance]
        exact Or.inl hclock
      · exact Or.inr ⟨_, hv, hlate⟩
    | ok decision =>
      rw [Visit.conclusion, hresult] at hcause
      obtain ⟨-, -, hother⟩ := successor_eq_error hready.mem hcause
      cases hother

/-- The promise is kept exactly by the runs that end in time and by those with a late task. -/
theorem Sane.bounded_iff (h : r.Sane p) (hstage : p.stage = .next r.flow.firstTask)
    (hexecuted : p.inst.executed = []) {n : Nat} :
    Bounded r.ttl (r.advance n p).clock (r.advance n p).ending ↔
      (r.advance n p).clock ≤ r.ttl ∨ ∃ v ∈ r.visits n p, Late r v := by
  constructor
  · intro hbounded
    rcases Nat.lt_or_ge r.ttl (r.advance n p).clock with hover | hclock
    · obtain ⟨flowId, task, route, millis, hfailed⟩ := hbounded.overdue hover
      exact h.of_timeout hstage hexecuted (Engine.ending_failed_iff.mp hfailed)
    · exact Or.inl hclock
  · rintro (hclock | ⟨v, hv, hlate⟩)
    · exact bounded_of_in_time hclock
    · obtain ⟨-, hresult⟩ := (h.spent hv).of_late hlate
      have hending := h.ending_of_error hv hresult
      refine ⟨?_, fun _ => ⟨_, _, _, _, hending⟩⟩
      intro outcome hcompleted
      cases hending.symm.trans hcompleted

/-! ## §3 Completed -/

/-- A run that completes takes no longer than its lifetime and one call of a monitor, and is in time
unless that is its last call and comes too late. -/
theorem Sane.clock_of_completed (h : r.Sane p) {name : String} (hstage : p.stage = .next name)
    {n : Nat} (hcompleted : (r.advance n p).stage = .completed) :
    (r.advance n p).clock ≤ r.ttl + r.engine.settings.monitorTimeout ∧
      ((r.advance n p).clock ≤ r.ttl ↔
        ∀ d ∈ (r.advance n p).deliveries.getLast?, d.purpose = .monitor .after →
          d.settled ≤ r.ttl) := by
  obtain ⟨front, v, hvisits, -, decision, hresult⟩ :=
    (h.advance_completed_iff hstage n).mp hcompleted
  obtain ⟨status, stage, hadvance⟩ := h.advance_of_last hvisits
  have hv : v ∈ r.visits n p := hvisits ▸ List.mem_concat_self
  cases h.spent hv with
  | unmapped _ _ result | expired _ _ result | failed _ _ result =>
    cases result.symm.trans hresult
  | @succeeded d after _ dispatches timely _ _ last monitor left =>
    have hsettled := timely.settled_le
    rw [hadvance]
    show v.left.clock ≤ _ ∧ (v.left.clock ≤ _ ↔ ∀ c ∈ v.left.deliveries.getLast?, _)
    rw [last, left]
    cases after with
    | none =>
      refine ⟨Nat.le_add_right_of_le hsettled, fun _ => ?_, fun _ => hsettled⟩
      rintro c ⟨⟩ -
      exact hsettled
    | some m =>
      obtain ⟨hpurpose, -, hlimit⟩ := monitor m rfl
      refine ⟨hlimit.trans (Nat.add_le_add_right hsettled _), ?_, fun hin => hin m rfl hpurpose⟩
      rintro hclock c ⟨⟩ -
      exact hclock

/-! ## §4 Overdue -/

/-- A run that comes to a task when its time is up fails there. -/
theorem Sane.failed_of_overdue (h : r.Sane p) {name : String} (hstage : p.stage = .next name)
    (hover : r.ttl ≤ p.clock) : ∃ failure, (r.step p).stage = .failed failure := by
  have hstep := h.stepped
  generalize r.visit? p = made, r.step p = q at hstep ⊢
  cases hstep with
  | ended hended => exact absurd hstage (hended name)
  | cancelled hready => exact ⟨_, hready.cancelledBefore_stage⟩
  | @visited t hready =>
    have hfailed : ∃ e, (r.visit t p).result = .error e := by
      cases hready.spent with
      | unmapped _ _ result | expired _ _ result | failed _ _ result => exact ⟨_, result⟩
      | succeeded _ timely =>
        have halive := timely.arrived_le.trans_lt timely.alive
        exact absurd halive (Nat.not_lt.mpr hover)
    obtain ⟨e, hresult⟩ := hfailed
    refine ⟨⟨r.flow.id, some t.name, e⟩, ?_⟩
    rw [hready.settled_stage, Visit.conclusion, hresult]
    rfl

end Run

/-! ## §5 Runs -/

namespace Engine

open Run

/-- How far a lifetime bounds a run. A run that has ended keeps the promise of its lifetime exactly
if it ended in time, or if one of its tasks was late and so not dispatched. If it completed, it took
no longer than its lifetime and one call of a monitor, and it was in time unless that call was its
last and came too late. A run that is still going when its time is up fails with its next task. -/
theorem runFlow_bounded_iff (e : Engine W) (flow : Flow) (order : Order) (supply : Supply) (n : Nat)
    (world : W) :
    ∃ inst, instanceOf flow order supply = .ok inst ∧
      let r := e.runOf flow supply
      let start := r.start inst world
      let report := e.runFlow flow order supply n world
      let clock := (r.advance n start).clock
      let ttl := flow.ttl.getD e.settings.flowTtl
      (report.ending ≠ .unfinished →
        (Bounded ttl clock report.ending ↔
          clock ≤ ttl ∨ ∃ v ∈ r.visits n start, Late r v)) ∧
      (∀ outcome, report.ending = .completed outcome →
        outcome.elapsed = clock * 1000000 ∧
        clock ≤ ttl + e.settings.monitorTimeout ∧
        (clock ≤ ttl ↔ ∀ d ∈ report.deliveries.getLast?, d.purpose = .monitor .after →
          d.settled ≤ ttl)) ∧
      (report.ending = .unfinished → ttl ≤ clock → ∃ failure, ∀ m, n < m →
        (e.runFlow flow order supply m world).ending = .failed failure) := by
  obtain ⟨inst, hopened⟩ := exists_opened e flow order supply
  refine ⟨inst, hopened.instanceOf_eq, ?_⟩
  intro r start report clock ttl
  have hsane : r.Sane start := hopened.sane world
  have hreport : report = (r.advance n start).report := hopened.report n world
  rw [hreport]
  refine ⟨fun _ => hsane.bounded_iff rfl hopened.executed, ?_, ?_⟩
  · intro outcome hcompleted
    obtain ⟨hstage, rfl⟩ := ending_completed_iff.mp hcompleted
    exact ⟨rfl, hsane.clock_of_completed rfl hstage⟩
  · intro hgoing hover
    obtain ⟨name, hstage⟩ := ending_unfinished_iff.mp hgoing
    obtain ⟨failure, hfailed⟩ := (hsane.advance n).failed_of_overdue hstage hover
    refine ⟨failure, ?_⟩
    intro m hm
    obtain ⟨k, rfl⟩ : ∃ k, m = n + 1 + k := Nat.exists_eq_add_of_le hm
    have hended : ∀ name, (r.step (r.advance n start)).stage ≠ .next name := by simp [hfailed]
    rw [hopened.report]
    show (r.advance (n + 1 + k) start).ending = _
    rw [advance_add, advance_add, advance_one, advance_of_ended hended]
    exact ending_failed_iff.mpr hfailed

/-- A flow of one task with a monitor behind it, and a lifetime of one second. -/
def slowlyAudited : Flow where
  definition :=
    { id := "overrun"
      ttl := some 1000
      firstTask := "work"
      tasks := [{ name := "work", route := "worker.v1", execution := .finish,
                  monitorAfter := some "audit.v1" }] }
  valid := by decide +kernel

/-- An engine whose functions give back what they are sent, the monitor after three seconds. -/
def auditing : Engine Unit where
  plugins := .empty
  settings := {}
  host :=
    { dispatch := fun _ route request _ =>
        { delay := some (if route = "audit.v1" then 3000 else 0),
          answer := .ok (.ok request.body), answered := (), abandoned := () }
      cancelled := fun _ _ => false
      overrides := fun _ => .empty }
  epoch := ⟨0, 0⟩

/-- The run completes after three seconds, two of them past the end of its lifetime. -/
theorem slowlyAudited_overruns :
    let report := auditing.runFlow slowlyAudited ⟨"overrun", .null, some "c"⟩ ⟨0⟩ 1 ()
    slowlyAudited.ttl = some 1000 ∧
      report.deliveries.map (·.settled) = [0, 3000] ∧
      ¬∀ outcome, report.ending = .completed outcome → outcome.elapsed ≤ 1000 * 1000000 := by
  intro report
  have hending : report.ending = .completed
      { instanceId := (Supply.branch ⟨0⟩ 1).uuid
        flowId := "overrun"
        correlationId := "c"
        output := .null
        state := .obj [("header", .obj []), ("input", .null),
          ("model", .obj [("cid", .str "c"), ("flow", .str "overrun"),
            ("instance", .str (Supply.branch ⟨0⟩ 1).uuid)]),
          ("result", .obj []), ("status", .ofNat 200)]
        executed := ["work"]
        elapsed := 3000 * 1000000 } := by decide +kernel
  refine ⟨rfl, by decide +kernel, ?_⟩
  intro hbounded
  exact absurd (hbounded _ hending) (by decide)

end Engine

end TaskFlow
