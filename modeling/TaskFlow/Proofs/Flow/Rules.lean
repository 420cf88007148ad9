/-
TaskFlow.Proofs.Flow.Rules — what a run may rely on once a flow is loaded.

A loaded flow obeys the rules for definitions. Here they are turned into the facts a run depends on,
each stated of the flow and its tasks.

  §1 Tasks  — the tasks that a run comes to are there.
  §2 Counts — how many next tasks there are, by execution.
  §3 Lines  — mapping lines can be read as they stand.
-/
import TaskFlow.Proofs.Flow.Loading

namespace TaskFlow.Flow

variable {f : Flow} {t : Task}

/-! ## §1 Tasks -/

/-- A task of a flow obeys the rules. -/
theorem wellFormed_of_mem (h : t ∈ f.tasks) : t.WellFormed f.definition :=
  f.wellFormed.tasks t h

/-- The first task is there. -/
theorem exists_firstTask (f : Flow) : ∃ t, f.task f.firstTask = .ok t :=
  exists_task_of_declared f.wellFormed.start

/-- Every next task is there. -/
theorem exists_next (ht : t ∈ f.tasks) {next : String} (h : next ∈ t.next) :
    ∃ u, f.task next = .ok u :=
  exists_task_of_declared ((wellFormed_of_mem ht).next next h)

/-! ## §2 Counts -/

theorem next_of_sequential (ht : t ∈ f.tasks) (h : t.execution = .sequential) :
    ∃ next, t.next = [next] := by
  have hbranches := (wellFormed_of_mem ht).branches
  rw [Task.Branches, h] at hbranches
  exact List.length_eq_one_iff.mp hbranches

theorem two_le_next_of_decision (ht : t ∈ f.tasks) (h : t.execution = .decision) :
    2 ≤ t.next.length := by
  have hbranches := (wellFormed_of_mem ht).branches
  rwa [Task.Branches, h] at hbranches

/-! ## §3 Lines -/

theorem exists_readInput (ht : t ∈ f.tasks) {line : String} (h : line ∈ t.input) :
    ∃ parsed, Mapping.readInput line = .ok parsed :=
  (wellFormed_of_mem ht).input line h

theorem exists_readOutput (ht : t ∈ f.tasks) {line : String} (h : line ∈ t.output) :
    ∃ parsed, Mapping.readOutput t.decides line = .ok parsed :=
  (wellFormed_of_mem ht).output line h

end TaskFlow.Flow
