/-
TaskFlow.Proofs.Instance.Moves — an instance as a state machine.

An instance may be asked for its transitions in any order. It grants some and refuses the others,
and one that refuses stays as it was. `Moved` lists all that a granted move can do; what is known of
an instance after any history of moves rests on it, and on which moves of the history were granted.

  §1 Moves     — `Move`, and the statuses that allow each.
  §2 Steps     — `Moved`: what a granted move makes of an instance.
  §3 Coherence — `Coherent`: the status against the tasks that have begun.
  §4 Histories — the instance after some moves, and the moves that were granted.
  §5 Instances — all of it, of every new instance.
-/
import Mathlib.Data.List.Induction
import TaskFlow.Instance

namespace TaskFlow.Instance

/-! ## §1 Moves -/

/-- A transition that an instance is asked for. -/
inductive Move where
  | beginTask (task : String)
  | suspend
  | resume
  | complete
  | fail (reason : String)
deriving DecidableEq, Repr

namespace Move

/-- The task that a move begins. -/
def task? : Move → Option String
  | .beginTask task => some task
  | .suspend | .resume | .complete | .fail _ => none

/-- The move as a refusal names it. -/
def transition : Move → Transition
  | .beginTask _ => .startTask
  | .suspend => .suspend
  | .resume => .resume
  | .complete => .complete
  | .fail _ => .fail

/-- The statuses that allow a move. -/
def Allowed : Move → Status → Prop
  | .beginTask _, status => status = .ready ∨ ∃ task, status = .executing task
  | .suspend, status | .complete, status => ∃ task, status = .executing task
  | .resume, status => ∃ task, status = .suspended task
  | .fail _, status => status ≠ .completed ∧ ∀ task reason, status ≠ .failed task reason

end Move

/-- The instance that a move leads to, or why it is refused. -/
def attempt (i : Instance) : Move → Except Error Instance
  | .beginTask task => i.beginTask task
  | .suspend => i.suspend
  | .resume => i.resume
  | .complete => i.complete
  | .fail reason => i.fail reason

/-! ## §2 Steps -/

/-- What a move makes of an instance that grants it. -/
inductive Moved (i : Instance) : Move → Instance → Prop
  | begun (task : String) (h : i.status = .ready ∨ ∃ previous, i.status = .executing previous) :
      Moved i (.beginTask task)
        { i with executed := i.executed ++ [task], status := .executing task }
  | suspended {task : String} (h : i.status = .executing task) :
      Moved i .suspend { i with status := .suspended task }
  | resumed {task : String} (h : i.status = .suspended task) :
      Moved i .resume { i with status := .executing task }
  | completed {task : String} (h : i.status = .executing task) :
      Moved i .complete { i with status := .completed }
  | failed (reason : String) (h : i.status.isTerminal = false) :
      Moved i (.fail reason) { i with status := .failed i.status.currentTask reason }

/-- Why a move is refused. -/
def refusal (i : Instance) (m : Move) : Error :=
  .transition (.illegal m.transition i.id i.status)

variable {i j : Instance} {m : Move}

theorem attempt_of_allowed (h : m.Allowed i.status) : ∃ j, i.attempt m = .ok j ∧ Moved i m j := by
  cases m with
  | beginTask task =>
    refine ⟨_, ?_, .begun task h⟩
    rw [attempt, beginTask]
    rcases h with hready | ⟨previous, hexecuting⟩
    · rw [hready]
    · rw [hexecuting]
  | suspend =>
    obtain ⟨task, hexecuting⟩ := h
    refine ⟨_, ?_, .suspended hexecuting⟩
    rw [attempt, suspend, hexecuting]
  | resume =>
    obtain ⟨task, hsuspended⟩ := h
    refine ⟨_, ?_, .resumed hsuspended⟩
    rw [attempt, resume, hsuspended]
  | complete =>
    obtain ⟨task, hexecuting⟩ := h
    refine ⟨_, ?_, .completed hexecuting⟩
    rw [attempt, complete, hexecuting]
  | fail reason =>
    have hgoing : i.status.isTerminal = false := by
      obtain ⟨hcompleted, hfailed⟩ := h
      cases hstatus : i.status with
      | completed => exact absurd hstatus hcompleted
      | failed task reason => exact absurd hstatus (hfailed task reason)
      | ready | executing | suspended => rfl
    refine ⟨_, ?_, .failed reason hgoing⟩
    rw [attempt, fail, if_neg (by simp [hgoing])]

theorem attempt_of_not_allowed (h : ¬m.Allowed i.status) :
    i.attempt m = .error (i.refusal m) := by
  cases m with
  | beginTask task =>
    rw [attempt, beginTask]
    split
    · next hready => exact h.elim (Or.inl hready)
    · next previous hexecuting => exact h.elim (Or.inr ⟨previous, hexecuting⟩)
    · rfl
  | suspend =>
    rw [attempt, suspend]
    split
    · next task hexecuting => exact h.elim ⟨task, hexecuting⟩
    · rfl
  | resume =>
    rw [attempt, resume]
    split
    · next task hsuspended => exact h.elim ⟨task, hsuspended⟩
    · rfl
  | complete =>
    rw [attempt, complete]
    split
    · next task hexecuting => exact h.elim ⟨task, hexecuting⟩
    · rfl
  | fail reason =>
    rw [attempt, fail]
    split
    · rfl
    · next hgoing =>
      refine h.elim ⟨?_, ?_⟩
      · intro hcompleted
        exact hgoing (by rw [hcompleted]; rfl)
      · intro task reason hfailed
        exact hgoing (by rw [hfailed]; rfl)

/-- A move is granted exactly where it is allowed. -/
theorem attempt_ok_iff : (∃ j, i.attempt m = .ok j) ↔ m.Allowed i.status := by
  constructor
  · rintro ⟨j, hj⟩
    by_contra hnot
    cases hj.symm.trans (attempt_of_not_allowed hnot)
  · intro hallowed
    obtain ⟨j, hj, -⟩ := attempt_of_allowed hallowed
    exact ⟨j, hj⟩

theorem moved_of_ok (h : i.attempt m = .ok j) : Moved i m j := by
  obtain ⟨k, hk, hmoved⟩ := attempt_of_allowed (attempt_ok_iff.mp ⟨j, h⟩)
  cases h.symm.trans hk
  exact hmoved

theorem eq_refusal_of_error {e : Error} (h : i.attempt m = .error e) : e = i.refusal m := by
  have hnot : ¬m.Allowed i.status := by
    intro hallowed
    obtain ⟨j, hj, -⟩ := attempt_of_allowed hallowed
    cases h.symm.trans hj
  cases h.symm.trans (attempt_of_not_allowed hnot)
  rfl

/-- A granted move adds the task that it begins, if it begins one. -/
theorem Moved.executed (h : Moved i m j) : j.executed = i.executed ++ m.task?.toList := by
  cases h with
  | begun => rfl
  | suspended | resumed | completed | failed => exact (List.append_nil _).symm

/-- No move touches the state, or the identity of the instance. -/
theorem Moved.frame (h : Moved i m j) :
    j = { i with executed := j.executed, status := j.status } := by
  cases h <;> rfl

theorem Moved.not_ready (h : Moved i m j) : j.status ≠ .ready := by
  cases h <;> simp

/-! ## §3 Coherence -/

/-- The status of an instance agrees with the tasks that have begun. -/
structure Coherent (i : Instance) : Prop where
  current : ∀ task, i.status = .executing task ∨ i.status = .suspended task →
    i.executed.getLast? = some task
  ready : i.status = .ready → i.executed = []
  completed : i.status = .completed → i.executed ≠ []
  /-- The task that a failure remembers is the last one that began. -/
  failed : ∀ task reason, i.status = .failed task reason → task = i.executed.getLast?

/-- A move keeps the status and the tasks in agreement. -/
theorem Moved.coherent (h : Moved i m j) (hi : i.Coherent) : j.Coherent := by
  cases h with
  | begun task =>
    refine ⟨?_, by simp, by simp, by simp⟩
    intro current hcurrent
    obtain rfl : task = current := by simpa using hcurrent
    exact List.getLast?_concat
  | @suspended task hexecuting =>
    refine ⟨?_, by simp, by simp, by simp⟩
    intro current hcurrent
    obtain rfl : task = current := by simpa using hcurrent
    exact hi.current task (Or.inl hexecuting)
  | @resumed task hsuspended =>
    refine ⟨?_, by simp, by simp, by simp⟩
    intro current hcurrent
    obtain rfl : task = current := by simpa using hcurrent
    exact hi.current task (Or.inr hsuspended)
  | @completed task hexecuting =>
    have hlast := hi.current task (Or.inl hexecuting)
    refine ⟨by simp, by simp, ?_, by simp⟩
    intro _ hnone
    rw [show i.executed = [] from hnone] at hlast
    cases hlast
  | failed reason hgoing =>
    refine ⟨by simp, by simp, by simp, ?_⟩
    rintro task reason ⟨⟩
    -- a task is running exactly if one has begun
    cases hstatus : i.status with
    | ready => rw [hi.ready hstatus]; rfl
    | executing task => exact (hi.current task (Or.inl hstatus)).symm
    | suspended task => exact (hi.current task (Or.inr hstatus)).symm
    | completed | failed => rw [hstatus] at hgoing; cases hgoing

/-! ## §4 Histories -/

/-- The instance after a move: another one if it is granted, the same if it is refused. -/
def next (i : Instance) (m : Move) : Instance :=
  match i.attempt m with
  | .ok j => j
  | .error _ => i

/-- The instance after some moves, one after the other. -/
def after (i : Instance) (moves : List Move) : Instance :=
  moves.foldl next i

/-- The moves that are granted on the way. -/
def granted (i : Instance) : List Move → List Move
  | [] => []
  | m :: rest =>
    match i.attempt m with
    | .ok j => m :: j.granted rest
    | .error _ => i.granted rest

theorem after_concat (i : Instance) (moves : List Move) (m : Move) :
    i.after (moves ++ [m]) = (i.after moves).next m := by
  rw [after, List.foldl_append]
  rfl

theorem after_append (i : Instance) (front back : List Move) :
    i.after (front ++ back) = (i.after front).after back :=
  List.foldl_append

theorem granted_append (i : Instance) (front back : List Move) :
    i.granted (front ++ back) = i.granted front ++ (i.after front).granted back := by
  induction front generalizing i with
  | nil => rfl
  | cons m rest ih =>
    have hafter : i.after (m :: rest) = (i.next m).after rest := rfl
    rw [hafter, List.cons_append, granted, granted, next]
    cases i.attempt m with
    | ok j => exact congrArg (m :: ·) (ih j)
    | error e => exact ih i

/-- What a move adds to a history: it is granted, or it is refused and nothing has happened. -/
theorem history_concat (i : Instance) (moves : List Move) (m : Move) :
    (m.Allowed (i.after moves).status ∧ Moved (i.after moves) m (i.after (moves ++ [m])) ∧
        i.granted (moves ++ [m]) = i.granted moves ++ [m]) ∨
      ¬m.Allowed (i.after moves).status ∧ i.after (moves ++ [m]) = i.after moves ∧
        i.granted (moves ++ [m]) = i.granted moves := by
  rw [after_concat, granted_append, next]
  simp only [granted]
  cases hattempt : (i.after moves).attempt m with
  | ok j => exact Or.inl ⟨attempt_ok_iff.mp ⟨j, hattempt⟩, moved_of_ok hattempt, rfl⟩
  | error e =>
    refine Or.inr ⟨?_, rfl, List.append_nil _⟩
    intro hallowed
    obtain ⟨j, hj, -⟩ := attempt_of_allowed hallowed
    cases hattempt.symm.trans hj

/-- The status and the tasks agree after any history. -/
theorem Coherent.after (h : i.Coherent) (moves : List Move) : (i.after moves).Coherent := by
  induction moves using List.reverseRecOn with
  | nil => exact h
  | append_singleton moves m ih =>
    rcases history_concat i moves m with ⟨-, hmoved, -⟩ | ⟨-, hsame, -⟩
    · exact hmoved.coherent ih
    · rwa [hsame]

/-- The tasks are those of the granted moves, in their order. -/
theorem executed_after (i : Instance) (moves : List Move) :
    (i.after moves).executed = i.executed ++ (i.granted moves).filterMap Move.task? := by
  induction moves using List.reverseRecOn with
  | nil => exact (List.append_nil _).symm
  | append_singleton moves m ih =>
    rcases history_concat i moves m with ⟨-, hmoved, hgranted⟩ | ⟨-, hsame, hgranted⟩
    · rw [hmoved.executed, ih, hgranted, List.filterMap_append, List.append_assoc]
      cases m <;> rfl
    · rw [hsame, hgranted, ih]

theorem frame_after (i : Instance) (moves : List Move) :
    i.after moves =
      { i with executed := (i.after moves).executed, status := (i.after moves).status } := by
  induction moves using List.reverseRecOn with
  | nil => rfl
  | append_singleton moves m ih =>
    rcases history_concat i moves m with ⟨-, hmoved, -⟩ | ⟨-, hsame, -⟩
    · rw [hmoved.frame, ih]
    · rw [hsame, ← ih]

/-- An instance that was ready still is, exactly if no task has begun and it was never told to
fail. -/
theorem ready_after_iff (h : i.status = .ready) (moves : List Move) :
    (i.after moves).status = .ready ↔
      (∀ task, .beginTask task ∉ i.granted moves) ∧ ∀ reason, .fail reason ∉ moves := by
  induction moves using List.reverseRecOn with
  | nil => simp [Instance.after, granted, h]
  | append_singleton moves m ih =>
    rcases history_concat i moves m with ⟨hallowed, hmoved, hgranted⟩ | ⟨hnot, hsame, hgranted⟩
    · refine iff_of_false hmoved.not_ready ?_
      rintro ⟨hbegun, hfail⟩
      rw [hgranted] at hbegun
      -- it was ready until now, and only a task or a failure could change that
      have hready : (i.after moves).status = .ready :=
        ih.mpr ⟨fun task hmem => hbegun task (List.mem_append_left _ hmem),
          fun reason hmem => hfail reason (List.mem_append_left _ hmem)⟩
      rw [hready] at hallowed
      cases m with
      | beginTask task => exact hbegun task List.mem_concat_self
      | fail reason => exact hfail reason List.mem_concat_self
      | suspend | resume | complete => simp [Move.Allowed] at hallowed
    · rw [hsame, hgranted, ih]
      refine and_congr_right fun hbegun => ⟨?_, ?_⟩
      · intro hfail reason hmem
        have hready := ih.mpr ⟨hbegun, hfail⟩
        rcases List.mem_append.mp hmem with hmoves | hm
        · exact hfail reason hmoves
        · obtain rfl := List.mem_singleton.mp hm
          exact hnot (by simp [Move.Allowed, hready])
      · intro hfail reason hmem
        exact hfail reason (List.mem_append_left _ hmem)

theorem not_allowed_of_terminal {status : Status} (h : status.isTerminal = true) (m : Move) :
    ¬m.Allowed status := by
  cases status with
  | completed | failed => cases m <;> simp [Move.Allowed]
  | ready | executing | suspended => cases h

/-- An instance whose life is over stays as it is. -/
theorem after_of_terminal (h : i.status.isTerminal = true) (moves : List Move) :
    i.after moves = i := by
  induction moves using List.reverseRecOn with
  | nil => rfl
  | append_singleton moves m ih =>
    rcases history_concat i moves m with ⟨hallowed, -⟩ | ⟨-, hsame, -⟩
    · rw [ih] at hallowed
      exact absurd hallowed (not_allowed_of_terminal h m)
    · rw [hsame, ih]

/-! ## §5 Instances -/

/-- What is known of an instance after some moves. -/
structure Faithful (i : Instance) (moves : List Move) : Prop where
  /-- The task that is executing or suspended is the last one that began. -/
  current : ∀ task, (i.after moves).status = .executing task ∨
    (i.after moves).status = .suspended task → (i.after moves).executed.getLast? = some task
  ready : (i.after moves).status = .ready ↔
    (∀ task, .beginTask task ∉ i.granted moves) ∧ ∀ reason, .fail reason ∉ moves
  completed : (i.after moves).status = .completed → (i.after moves).executed ≠ []
  /-- A failure remembers the last task that began, if any. -/
  failed : ∀ task reason, (i.after moves).status = .failed task reason →
    task = (i.after moves).executed.getLast?
  executed : (i.after moves).executed = (i.granted moves).filterMap Move.task?
  state : (i.after moves).state = i.state
  allowed : ∀ m, (∃ j, (i.after moves).attempt m = .ok j) ↔ m.Allowed (i.after moves).status
  /-- A move that is refused is an invalid transition and has no effect. -/
  refused : ∀ m e, (i.after moves).attempt m = .error e →
    e = (i.after moves).refusal m ∧ e.kind = .invalidState ∧ i.after (moves ++ [m]) = i.after moves
  /-- After a completion or a failure every later move is refused. -/
  terminal : (i.after moves).status.isTerminal = true →
    ∀ later m, ∃ e, (i.after (moves ++ later)).attempt m = .error e

theorem faithful_of_ready (hready : i.status = .ready) (hexecuted : i.executed = [])
    (moves : List Move) : Faithful i moves := by
  have hcoherent : i.Coherent := by
    refine ⟨?_, fun _ => hexecuted, ?_, ?_⟩
    all_goals simp [hready]
  have hafter := hcoherent.after moves
  refine ⟨hafter.current, ready_after_iff hready moves, hafter.completed, hafter.failed, ?_, ?_,
    fun m => attempt_ok_iff, ?_, ?_⟩
  · rw [executed_after, hexecuted, List.nil_append]
  · rw [frame_after]
  · intro m e herror
    have he := eq_refusal_of_error herror
    refine ⟨he, by rw [he]; rfl, ?_⟩
    rw [after_concat, next, herror]
  · intro hover later m
    rw [after_append, after_of_terminal hover]
    exact ⟨_, attempt_of_not_allowed (not_allowed_of_terminal hover m)⟩

/-- Instances can always be created, and a new one is faithful, whatever moves are asked of it: its
status tells which task began last, its tasks are those that it was granted to begin, and what it
refuses leaves no trace. -/
theorem create_faithful (id flowId correlationId : String) (payload : Json) :
    ∃ i, create id flowId correlationId payload = .ok i ∧ i.status = .ready ∧ i.executed = [] ∧
      ∀ moves, Faithful i moves :=
  ⟨_, rfl, rfl, rfl, faithful_of_ready rfl rfl⟩

end TaskFlow.Instance
