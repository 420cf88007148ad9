/-
TaskFlow.Proofs.Engine.Walk — the tasks that a run begins are a walk over its flow.

The walk starts at the first task, and each task is followed by the one that its own decision hands
over to. A run is complete exactly if its walk has come to the end of a terminal task; if it failed,
the failure names the last task of the walk, unless the run was cancelled before the next one.

  §1 Walks   — `Walk`, `EndsFlow` and `Blamed`.
  §2 Visits  — the visits of a run are a walk.
  §3 Endings — what the last visit says about the ending.
  §4 Runs    — all of it, of every run.
-/
import TaskFlow.Proofs.Engine.Visits

namespace TaskFlow

variable {W : Type}

/-! ## §1 Walks -/

/-- The visits start at the first task and follow the decisions made. -/
structure Walk (f : Flow) (visits : List (Visit W)) : Prop where
  declared : ∀ v ∈ visits, f.task v.task.name = .ok v.task
  first : ∀ v, visits.head? = some v → v.task.name = f.firstTask
  linked : visits.IsChain fun v w =>
    ∃ decision, v.result = .ok decision ∧ HandsOver v.task decision w.task.name

/-- A terminal task, and all its phases succeeded. -/
structure Visit.EndsFlow (v : Visit W) : Prop where
  terminal : v.task.execution.isTerminal = true
  succeeded : ∃ decision, v.result = .ok decision

/-- The failures that visits may end with, each with the task it names. -/
inductive Blamed (r : Run W) (start : Progress W) : List (Visit W) → FlowFailure → Prop
  /-- The step of the last task failed. -/
  | step {front : List (Visit W)} {last : Visit W} {cause : Error}
      (hcause : last.conclusion = .error cause) :
      Blamed r start (front ++ [last]) ⟨r.flow.id, some last.task.name, cause⟩
  /-- Cancelled before anything had begun. -/
  | unbegun (hcancel : r.engine.host.cancelled 0 start.world = true) :
      Blamed r start []
        ⟨r.flow.id, some r.flow.firstTask,
          .cancelled (.beforeTask start.inst.id r.flow.firstTask)⟩
  /-- Cancelled before the successor of the last task. -/
  | between {front : List (Visit W)} {last : Visit W} {decision : Option Json} {next : String}
      (hresult : last.result = .ok decision) (hnext : HandsOver last.task decision next)
      (hcancel : r.engine.host.cancelled (front ++ [last]).length last.left.world = true) :
      Blamed r start (front ++ [last])
        ⟨r.flow.id, some next, .cancelled (.beforeTask start.inst.id next)⟩

namespace Run

variable {r : Run W} {p : Progress W}

/-! ## §2 Visits -/

/-- A visit that another one follows handed over to it. -/
theorem Follows.handsOver {v w : Visit W} (h : r.Follows v w) :
    ∃ decision, v.result = .ok decision ∧ HandsOver v.task decision w.task.name := by
  obtain ⟨decision, hresult, hsuccessor⟩ := conclusion_eq_ok h.conclusion
  exact ⟨decision, hresult, successor_eq_some_iff.mp hsuccessor⟩

/-- The visits of a run that has its first task still to begin. -/
theorem Sane.walk (h : r.Sane p) (hstage : p.stage = .next r.flow.firstTask) (n : Nat) :
    Walk r.flow (r.visits n p) := by
  refine ⟨?_, ?_, (h.visits_isChain n).imp fun _ _ => Follows.handsOver⟩
  · intro v hv
    obtain ⟨m, t, hready, -, rfl⟩ := h.mem_visits hv
    exact hready.task
  · intro v hv
    obtain ⟨-, hnext⟩ := h.head_visits hv
    rw [hstage] at hnext
    exact (Stage.next.inj hnext).symm

/-- A run begins the tasks that it visits. -/
theorem Sane.executed_advance (h : r.Sane p) (n : Nat) :
    (r.advance n p).inst.executed =
      p.inst.executed ++ (r.visits n p).map (·.task.name) := by
  have hvisit : ∀ q t, r.Ready q t →
      (r.visit t q).left.inst.executed = q.inst.executed ++ [(r.visit t q).task.name] := by
    intro q t hready
    exact hready.served.executed
  rw [List.map_eq_flatMap]
  exact h.gathered (f := fun q => q.inst.executed) (fun _ _ _ => rfl) hvisit n

theorem Stepped.id_eq {q : Progress W} {made : Option (Visit W)} (h : r.Stepped p made q) :
    q.inst.id = p.inst.id := by
  cases h with
  | ended => rfl
  | @cancelled t =>
    obtain ⟨status, stage, heq⟩ := cancelledBefore_eq (r := r) t.name p
    rw [heq]
    rfl
  | @visited t hready =>
    obtain ⟨status, stage, heq⟩ := settled_eq (r := r) (r.visit t p)
    rw [heq]
    exact hready.served.id_eq

theorem Sane.advance_id (h : r.Sane p) (n : Nat) : (r.advance n p).inst.id = p.inst.id := by
  induction n generalizing p with
  | zero => rfl
  | succ n ih => rw [advance_succ, ih (h.stepped.sane h), h.stepped.id_eq]

theorem Sane.standing_id (h : r.Sane p) (n : Nat) :
    (r.standing p (r.visits n p)).inst.id = p.inst.id := by
  obtain ⟨status, stage, heq⟩ := h.advance_eq n
  rw [← h.advance_id n, heq]
  rfl

theorem Sane.standing_executed (h : r.Sane p) (n : Nat) :
    (r.standing p (r.visits n p)).inst.executed =
      p.inst.executed ++ (r.visits n p).map (·.task.name) := by
  obtain ⟨status, stage, heq⟩ := h.advance_eq n
  rw [← h.executed_advance n, heq]
  rfl

/-! ## §3 Endings -/

theorem Ready.settled_stage {t : Task} (h : r.Ready p t) :
    (r.settled (r.visit t p)).stage =
      match (r.visit t p).conclusion with
      | .ok (some next) => .next next
      | .ok none => .completed
      | .error e => .failed ⟨r.flow.id, some t.name, e⟩ := by
  rw [h.settled_eq]
  cases (r.visit t p).conclusion with
  | error e => rfl
  | ok next => cases next <;> rfl

theorem standing_nil : r.standing p [] = p := rfl

theorem standing_concat (front : List (Visit W)) (last : Visit W) :
    r.standing p (front ++ [last]) = r.settled last := by
  simp [standing]

/-- A run is left as its last visit leaves it. -/
theorem Sane.advance_of_last (h : r.Sane p) {n : Nat} {front : List (Visit W)} {last : Visit W}
    (hvisits : r.visits n p = front ++ [last]) :
    ∃ status stage, r.advance n p = { last.left.withStatus status with stage } := by
  obtain ⟨status, stage, hadvance⟩ := h.advance_eq n
  obtain ⟨status', stage', hsettled⟩ := settled_eq (r := r) last
  rw [hadvance, hvisits, standing_concat, hsettled]
  exact ⟨status, stage, rfl⟩

/-- How a run stands after its visits, if it was not cancelled. -/
theorem Sane.standing_stage (h : r.Sane p) {n : Nat} {front : List (Visit W)} {last : Visit W}
    (hvisits : r.visits n p = front ++ [last]) :
    (r.settled last).stage =
      match last.conclusion with
      | .ok (some next) => .next next
      | .ok none => .completed
      | .error e => .failed ⟨r.flow.id, some last.task.name, e⟩ := by
  have hlast : last ∈ r.visits n p := hvisits ▸ List.mem_concat_self
  obtain ⟨m, t, hready, -, rfl⟩ := h.mem_visits hlast
  exact hready.settled_stage

theorem Ready.cancelledBefore_stage {t : Task} (h : r.Ready p t) :
    (r.cancelledBefore t.name p).stage =
      .failed ⟨r.flow.id, some t.name, .cancelled (.beforeTask p.inst.id t.name)⟩ := by
  rw [cancelledBefore, stop_of_not_terminal h.not_terminal]

/-- A terminal task whose phases succeed concludes with no successor. -/
theorem endsFlow_iff {v : Visit W} : v.EndsFlow ↔ v.conclusion = .ok none := by
  constructor
  · rintro ⟨hterminal, decision, hresult⟩
    rw [Visit.conclusion, hresult]
    exact successor_eq_none_iff.mpr hterminal
  · intro h
    obtain ⟨decision, hresult, hsuccessor⟩ := conclusion_eq_ok h
    exact ⟨successor_eq_none_iff.mp hsuccessor, decision, hresult⟩

/-- A run that its last visit ended has not been cancelled after it. -/
theorem Sane.advance_of_ended (h : r.Sane p) {n : Nat} {front : List (Visit W)} {last : Visit W}
    (hvisits : r.visits n p = front ++ [last])
    (hended : ∀ name, (r.settled last).stage ≠ .next name) : r.advance n p = r.settled last := by
  have hstanding : r.standing p (r.visits n p) = r.settled last := by
    rw [hvisits, standing_concat]
  rcases h.advance_standing n with hstand | ⟨t, hready, -, -⟩
  · rw [hstand, hstanding]
  · have hnext := hready.stage
    rw [hstanding] at hnext
    exact absurd hnext (hended t.name)

/-- A run is complete exactly if its last visit ends the flow. -/
theorem Sane.advance_completed_iff (h : r.Sane p) {name : String} (hstage : p.stage = .next name)
    (n : Nat) :
    (r.advance n p).stage = .completed ↔
      ∃ front last, r.visits n p = front ++ [last] ∧ last.EndsFlow := by
  constructor
  · intro hcompleted
    rcases h.advance_standing n with hstand | ⟨t, hready, -, hstand⟩
    · rw [hstand] at hcompleted
      rcases List.eq_nil_or_concat' (r.visits n p) with hnil | ⟨front, last, hvisits⟩
      · rw [hnil, standing_nil, hstage] at hcompleted
        cases hcompleted
      · rw [hvisits, standing_concat, h.standing_stage hvisits] at hcompleted
        refine ⟨front, last, hvisits, endsFlow_iff.mpr ?_⟩
        split at hcompleted
        · cases hcompleted
        · assumption
        · cases hcompleted
    · rw [hstand, hready.cancelledBefore_stage] at hcompleted
      cases hcompleted
  · rintro ⟨front, last, hvisits, hends⟩
    have hsettled : (r.settled last).stage = .completed := by
      rw [h.standing_stage hvisits, endsFlow_iff.mp hends]
    rw [h.advance_of_ended hvisits (by simp [hsettled]), hsettled]

/-- A visit that fails is the last, and fails the run. -/
theorem Sane.advance_failed (h : r.Sane p) {n : Nat} {front back : List (Visit W)} {v : Visit W}
    (hvisits : r.visits n p = front ++ v :: back) {e : Error} (hcause : v.conclusion = .error e) :
    back = [] ∧ (r.advance n p).stage = .failed ⟨r.flow.id, some v.task.name, e⟩ := by
  have hback : back = [] := by
    rcases List.eq_nil_or_concat' back with hnil | ⟨middle, last, hback⟩
    · exact hnil
    · rw [hback, ← List.cons_append, ← List.append_assoc] at hvisits
      obtain ⟨w, hfollows⟩ := h.followed hvisits (List.mem_append_right front List.mem_cons_self)
      cases hfollows.conclusion.symm.trans hcause
  refine ⟨hback, ?_⟩
  rw [hback] at hvisits
  have hsettled : (r.settled v).stage = .failed ⟨r.flow.id, some v.task.name, e⟩ := by
    rw [h.standing_stage hvisits, hcause]
  rw [h.advance_of_ended hvisits (by simp [hsettled]), hsettled]

/-- A failed run names the task that failed, or the one it was cancelled before. -/
theorem Sane.advance_blamed (h : r.Sane p) (hstage : p.stage = .next r.flow.firstTask)
    (hexecuted : p.inst.executed = []) {n : Nat} {failure : FlowFailure}
    (hfailed : (r.advance n p).stage = .failed failure) :
    Blamed r p (r.visits n p) failure := by
  rcases h.advance_standing n with hstand | ⟨t, hready, hcancel, hstand⟩
  · rw [hstand] at hfailed
    rcases List.eq_nil_or_concat' (r.visits n p) with hnil | ⟨front, last, hvisits⟩
    · rw [hnil, standing_nil, hstage] at hfailed
      cases hfailed
    · rw [hvisits, standing_concat, h.standing_stage hvisits] at hfailed
      rw [hvisits]
      split at hfailed
      · cases hfailed
      · cases hfailed
      · next e hcause =>
        cases hfailed
        exact .step hcause
  -- cancelled: the run stands where its last visit left it, at the successor it handed over to
  · have hid := (h.standing_id n).symm
    have hlength : (r.standing p (r.visits n p)).inst.executed.length = (r.visits n p).length := by
      rw [h.standing_executed n, hexecuted, List.nil_append, List.length_map]
    rw [hstand, hready.cancelledBefore_stage, ← hid] at hfailed
    rw [cancels, hlength] at hcancel
    obtain rfl := Stage.failed.inj hfailed
    have hname := hready.stage
    rcases List.eq_nil_or_concat' (r.visits n p) with hnil | ⟨front, last, hvisits⟩
    · rw [hnil, standing_nil, hstage] at hname
      rw [hnil] at hcancel ⊢
      rw [← Stage.next.inj hname]
      exact .unbegun hcancel
    · rw [hvisits, standing_concat] at hname hcancel
      rw [h.standing_stage hvisits] at hname
      rw [hvisits]
      split at hname
      · next next hnext =>
        obtain ⟨decision, hresult, hsuccessor⟩ := conclusion_eq_ok hnext
        rw [← Stage.next.inj hname]
        refine .between hresult (successor_eq_some_iff.mp hsuccessor) ?_
        rw [settled, hnext] at hcancel
        exact hcancel
      · cases hname
      · cases hname

end Run

/-! ## §4 Runs -/

namespace Engine

open Run

/-- The ending of a progress is a completion exactly if its stage is, with the outcome of its
instance. -/
theorem ending_completed_iff {p : Progress W} {outcome : FlowOutcome} :
    p.ending = .completed outcome ↔
      p.stage = .completed ∧ outcome = p.inst.outcome p.clock := by
  unfold Progress.ending
  constructor
  · intro h
    split at h
    · next hstage =>
      cases h
      exact ⟨hstage, rfl⟩
    · cases h
    · cases h
  · rintro ⟨hstage, rfl⟩
    rw [hstage]

theorem ending_failed_iff {p : Progress W} {failure : FlowFailure} :
    p.ending = .failed failure ↔ p.stage = .failed failure := by
  unfold Progress.ending
  constructor
  · intro h
    split at h
    · cases h
    · next hstage =>
      cases h
      exact hstage
    · cases h
  · intro hstage
    rw [hstage]

theorem ending_unfinished_iff {p : Progress W} :
    p.ending = .unfinished ↔ ∃ name, p.stage = .next name := by
  unfold Progress.ending
  cases p.stage <;> simp

theorem Opened.executed_advance {e : Engine W} {flow : Flow} {order : Order} {supply : Supply}
    {inst : Instance} (h : Opened e flow order supply inst) (n : Nat) (world : W) :
    ((e.runOf flow supply).advance n ((e.runOf flow supply).start inst world)).inst.executed =
      ((e.runOf flow supply).visits n
        ((e.runOf flow supply).start inst world)).map (·.task.name) := by
  have hrun := (h.sane world).executed_advance n
  have hstart : ((e.runOf flow supply).start inst world).inst.executed = [] := h.executed
  rw [hstart, List.nil_append] at hrun
  exact hrun

/-- The tasks that a run begins are a walk over the flow. The run is complete exactly if the last of
them ends the flow and no task before it is terminal, and then it has executed that walk; a failure
names the task that failed, or the one that the run was cancelled before. -/
theorem runFlow_walk (e : Engine W) (flow : Flow) (order : Order) (supply : Supply) (n : Nat)
    (world : W) :
    ∃ inst, instanceOf flow order supply = .ok inst ∧
      let r := e.runOf flow supply
      let start := r.start inst world
      let visits := r.visits n start
      let report := e.runFlow flow order supply n world
      (r.advance n start).inst.executed = visits.map (·.task.name) ∧
      Walk flow visits ∧
      ((∃ outcome, report.ending = .completed outcome) ↔
        ∃ front last, visits = front ++ [last] ∧ last.EndsFlow ∧
          ∀ v ∈ front, v.task.execution.isTerminal = false) ∧
      (∀ outcome, report.ending = .completed outcome →
        outcome.executed = visits.map (·.task.name)) ∧
      ∀ failure, report.ending = .failed failure → Blamed r start visits failure := by
  obtain ⟨inst, hopened⟩ := exists_opened e flow order supply
  refine ⟨inst, hopened.instanceOf_eq, ?_⟩
  intro r start visits report
  have hsane : r.Sane start := hopened.sane world
  have hreport : report = (r.advance n start).report := hopened.report n world
  have hrun := hopened.executed_advance n world
  rw [hreport]
  refine ⟨hrun, hsane.walk rfl n, ⟨?_, ?_⟩, ?_, ?_⟩
  · rintro ⟨outcome, hcompleted⟩
    obtain ⟨front, last, hvisits, hends⟩ :=
      (hsane.advance_completed_iff rfl n).mp (ending_completed_iff.mp hcompleted).1
    refine ⟨front, last, hvisits, hends, ?_⟩
    intro v hv
    obtain ⟨w, hfollows⟩ := hsane.followed hvisits hv
    obtain ⟨decision, -, hhandover⟩ := hfollows.handsOver
    exact hhandover.not_terminal
  · rintro ⟨front, last, hvisits, hends, -⟩
    have hstage := (hsane.advance_completed_iff rfl n).mpr ⟨front, last, hvisits, hends⟩
    exact ⟨_, ending_completed_iff.mpr ⟨hstage, rfl⟩⟩
  · intro outcome hcompleted
    obtain ⟨-, rfl⟩ := ending_completed_iff.mp hcompleted
    exact hrun
  · intro failure hfailed
    exact hsane.advance_blamed rfl hopened.executed (ending_failed_iff.mp hfailed)

end Engine

end TaskFlow
