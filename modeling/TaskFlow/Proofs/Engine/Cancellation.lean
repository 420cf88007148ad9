/-
TaskFlow.Proofs.Engine.Cancellation — a run that is cancelled, against the run that is not.

A run looks at its token once for each task, before the task begins, and nowhere else. So two runs
that differ in their tokens alone are the same for as long as both find the same there
(`Sane.advance_withToken`), and a token that turns in the middle of a step, whatever is in flight, is
noticed before the next one: the step is completed, and if the run was to go on, it fails instead.

  §1 Tokens — engines and runs with another token.
  §2 Steps  — a step depends on the token through that one look.
  §3 Turns  — tokens that turn during a step of a run.
  §4 Runs   — a run whose token turns, against the run whose token never does.
-/
import TaskFlow.Proofs.Engine.Calls

namespace TaskFlow

variable {W : Type}

/-! ## §1 Tokens -/

/-- Whether a run has been cancelled, asked before the task that follows so many others, with the
host as it is then. -/
abbrev Token (W : Type) := Nat → W → Bool

namespace Token

/-- The token of a run that is never cancelled. -/
def never : Token W := fun _ _ => false

/-- The token that turns when so many tasks have begun. -/
def after (k : Nat) : Token W := fun begun _ => decide (k ≤ begun)

/-- What a run finds when it looks at its token. -/
def shows (token : Token W) (p : Progress W) : Bool :=
  token p.inst.executed.length p.world

end Token

/-- The engine with another token. -/
def Engine.withToken (e : Engine W) (token : Token W) : Engine W :=
  { e with host := { e.host with cancelled := token } }

namespace Run

/-- The run with another token. -/
def withToken (r : Run W) (token : Token W) : Run W :=
  { r with engine := r.engine.withToken token }

variable {r : Run W} {token : Token W} {t : Task} {p : Progress W} {k : Nat}

/-! ## §2 Steps -/

/-- No phase of a task looks at the token. -/
theorem settled_visit_withToken (r : Run W) (token : Token W) (t : Task) (p : Progress W) :
    (r.withToken token).settled ((r.withToken token).visit t p) = r.settled (r.visit t p) := rfl

theorem Ready.withToken (h : r.Ready p t) (token : Token W) : (r.withToken token).Ready p t :=
  ⟨h.stage, h.task, h.status, h.isObject⟩

theorem step_withToken (h : r.Sane p)
    (hlook : ∀ name, p.stage = .next name → token.shows p = r.cancels p) :
    (r.withToken token).step p = r.step p := by
  cases hstage : p.stage with
  | next name =>
    obtain ⟨t, hready, rfl⟩ := h.ready hstage
    have hsame : (r.withToken token).cancels p = r.cancels p := hlook _ hstage
    cases hcancel : r.cancels p with
    | true =>
      rw [step_of_cancels hstage hcancel, step_of_cancels hstage (hsame.trans hcancel)]
      rfl
    | false =>
      rw [step_of_ready hready hcancel,
        step_of_ready (hready.withToken token) (hsame.trans hcancel), settled_visit_withToken]
  | completed | failed =>
    have hended : ∀ name, p.stage ≠ .next name := by
      intro name hnext
      cases hstage.symm.trans hnext
    rw [step_of_ended hended, step_of_ended hended]

/-- Runs whose tokens show the same before each of the first steps take the same steps. -/
theorem Sane.advance_withToken (h : r.Sane p)
    (hlook : ∀ m < k, ∀ name, (r.advance m p).stage = .next name →
      token.shows (r.advance m p) = r.cancels (r.advance m p)) {n : Nat} (hn : n ≤ k) :
    (r.withToken token).advance n p = r.advance n p := by
  induction n with
  | zero => rfl
  | succ n ih =>
    rw [advance_add, advance_add, advance_one, advance_one, ih (Nat.le_of_succ_le hn)]
    exact step_withToken (h.advance n) (hlook n hn)

/-! ## §3 Turns -/

/-- During the `k`-th step of a run the token turns: it has not turned where one of the first `k`
tasks is about to begin, and it has where the next one is. -/
structure Turns (r : Run W) (p : Progress W) (token : Token W) (k : Nat) : Prop where
  spared : ∀ m < k, ∀ name, (r.advance m p).stage = .next name → token.shows (r.advance m p) = false
  turned : ∀ name, (r.advance k p).stage = .next name → token.shows (r.advance k p) = true

/-- While a run is going, it has begun a task with every step. -/
theorem Sane.length_executed (h : r.Sane p) (hexecuted : p.inst.executed = []) {n : Nat}
    {name : String} (hstage : (r.advance n p).stage = .next name) :
    (r.advance n p).inst.executed.length = n := by
  rw [h.executed_advance n, hexecuted, List.nil_append, List.length_map, h.length_visits hstage]

theorem Sane.turns_after (h : r.Sane p) (hexecuted : p.inst.executed = []) (k : Nat) :
    Turns r p (Token.after k) k := by
  refine ⟨?_, ?_⟩
  · intro m hm name hstage
    rw [Token.shows, h.length_executed hexecuted hstage]
    exact decide_eq_false (Nat.not_le.mpr hm)
  · intro name hstage
    rw [Token.shows, h.length_executed hexecuted hstage]
    exact decide_eq_true (Nat.le_refl k)

/-- Up to the step in which its token turns, a run is the run whose token never does. -/
theorem Turns.advance_eq (h : Turns r p token k) (hfree : ∀ q, r.cancels q = false)
    (hsane : r.Sane p) {n : Nat} (hn : n ≤ k) :
    (r.withToken token).advance n p = r.advance n p := by
  refine hsane.advance_withToken ?_ hn
  intro m hm name hstage
  rw [hfree, h.spared m hm name hstage]

/-- With the token turned, a run that was to go on ends before its next task. -/
theorem Turns.advance_of_lt (h : Turns r p token k) (hfree : ∀ q, r.cancels q = false)
    (hsane : r.Sane p) (hready : r.Ready (r.advance k p) t) {n : Nat} (hn : k < n) :
    (r.withToken token).advance n p = r.cancelledBefore t.name (r.advance k p) := by
  have hcancel : (r.withToken token).cancels (r.advance k p) = true := h.turned _ hready.stage
  obtain ⟨m, rfl⟩ : ∃ m, n = k + 1 + m := Nat.exists_eq_add_of_le hn
  rw [advance_add, advance_add, advance_one, h.advance_eq hfree hsane (Nat.le_refl k),
    step_of_cancels hready.stage hcancel]
  exact advance_of_ended (hready.withToken token).cancelledBefore_ended m

/-- The visit that a run makes after so many steps. -/
theorem visits_succ_of_ready (hready : r.Ready (r.advance k p) t)
    (hgo : r.cancels (r.advance k p) = false) :
    r.visits (k + 1) p = r.visits k p ++ [r.visit t (r.advance k p)] := by
  rw [visits_add, visits, visit?_of_ready hready hgo]
  rfl

end Run

/-! ## §4 Runs -/

namespace Engine

open Run

theorem runFlow_eq {flow : Flow} {order : Order} {supply : Supply} {inst : Instance}
    (h : instanceOf flow order supply = .ok inst) (e : Engine W) (n : Nat) (world : W) :
    e.runFlow flow order supply n world =
      ((e.runOf flow supply).advance n ((e.runOf flow supply).start inst world)).report := by
  rw [runFlow, h]

/-- Cancellation acts between steps only. Take a run whose token turns during its `k`-th step, and
the same run with a token that never turns. They are the same up to that step. If the free run has
ended by then, they are the same for good. Otherwise the cancelled run has made the calls of the
first `k` visits and no others, begins no further task, and fails as cancelled before the task that
the free run visits next. -/
theorem runFlow_cancelled (e : Engine W) (flow : Flow) (order : Order) (supply : Supply)
    (world : W) (k : Nat) :
    ∃ inst, instanceOf flow order supply = .ok inst ∧
      let free := e.withToken .never
      let r := free.runOf flow supply
      let start := r.start inst world
      Turns r start (.after k) k ∧
      ∀ token, Turns r start token k →
        let cancelled := e.withToken token
        (∀ n ≤ k, cancelled.runFlow flow order supply n world =
          free.runFlow flow order supply n world) ∧
        ((free.runFlow flow order supply k world).ending ≠ .unfinished → ∀ n,
          cancelled.runFlow flow order supply n world =
            free.runFlow flow order supply n world) ∧
        ((free.runFlow flow order supply k world).ending = .unfinished →
          ∃ v, r.visits (k + 1) start = r.visits k start ++ [v] ∧
            (r.visits k start).length = k ∧
            ∀ n, k < n →
              let report := cancelled.runFlow flow order supply n world
              let last := (cancelled.runOf flow supply).advance n start
              report.deliveries = (r.visits k start).flatMap Visit.calls ∧
              report.world = (free.runFlow flow order supply k world).world ∧
              last.inst.executed = (r.visits k start).map (·.task.name) ∧
              report.ending = .failed ⟨flow.id, some v.task.name,
                .cancelled (.beforeTask inst.id v.task.name)⟩) := by
  obtain ⟨inst, hopened⟩ := exists_opened (e.withToken .never) flow order supply
  refine ⟨inst, hopened.instanceOf_eq, ?_⟩
  intro free r start
  have hsane : r.Sane start := hopened.sane world
  refine ⟨hsane.turns_after hopened.executed k, ?_⟩
  intro token hturns cancelled
  have hfree : ∀ q, r.cancels q = false := fun _ => rfl
  have hreport : ∀ n, free.runFlow flow order supply n world = (r.advance n start).report :=
    fun n => hopened.report n world
  have hcancelled : ∀ n, cancelled.runFlow flow order supply n world =
      ((r.withToken token).advance n start).report :=
    fun n => runFlow_eq hopened.instanceOf_eq cancelled n world
  have hsame : ∀ n ≤ k, (r.withToken token).advance n start = r.advance n start :=
    fun n hn => hturns.advance_eq hfree hsane hn
  refine ⟨?_, ?_, ?_⟩
  · intro n hn
    rw [hreport, hcancelled, hsame n hn]
  · intro hended n
    have hstop : ∀ name, (r.advance k start).stage ≠ .next name := by
      intro name hname
      rw [hreport] at hended
      exact hended (ending_unfinished_iff.mpr ⟨name, hname⟩)
    rw [hreport, hcancelled]
    rcases Nat.le_total n k with hn | hn
    · rw [hsame n hn]
    -- past the end of the free run neither of them goes on
    · obtain ⟨m, rfl⟩ := Nat.exists_eq_add_of_le hn
      rw [advance_add, advance_add, hsame k (Nat.le_refl k), advance_of_ended hstop,
        advance_of_ended hstop]
  · intro hgoing
    rw [hreport] at hgoing
    obtain ⟨name, hstage⟩ := ending_unfinished_iff.mp hgoing
    obtain ⟨t, hready, rfl⟩ := (hsane.advance k).ready hstage
    refine ⟨_, visits_succ_of_ready hready (hfree _), hsane.length_visits hstage, ?_⟩
    intro n hn report last
    have hlast : last = r.cancelledBefore t.name (r.advance k start) :=
      hturns.advance_of_lt hfree hsane hready hn
    have hlastReport : report = last.report := hcancelled n
    have hid : (r.advance k start).inst.id = inst.id := hsane.advance_id k
    obtain ⟨status, stage, heq⟩ := cancelledBefore_eq (r := r) t.name (r.advance k start)
    refine ⟨?_, ?_, ?_, ?_⟩
    · rw [hlastReport, hlast, heq]
      exact (hsane.led_advance k).deliveries
    · rw [hlastReport, hlast, heq, hreport]
      rfl
    · rw [hlast, heq]
      exact hopened.executed_advance k world
    · rw [hlastReport, hlast]
      show (r.cancelledBefore t.name (r.advance k start)).ending = _
      rw [ending_failed_iff, hready.cancelledBefore_stage, hid]
      rfl

end Engine

end TaskFlow
