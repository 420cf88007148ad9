/-
TaskFlow.Proofs.Engine.Handover — which task follows a task.

`HandsOver` says it by the execution of the task and its decision, without any search; `successor`
is shown to compute exactly that. Over a loaded flow the only way not to compute anything is a
decision that selects nothing.

  §1 Handover  — `HandsOver` and `Undecided`.
  §2 Successor — `successor` against both.
-/
import TaskFlow.Engine.Run
import TaskFlow.Proofs.Flow.Rules

namespace TaskFlow

/-! ## §1 Handover -/

/-- After the task has made `decision`, `next` is the task that follows. -/
inductive HandsOver (t : Task) : Option Json → String → Prop
  | sequential {decision : Option Json} {next : String} (hkind : t.execution = .sequential)
      (hnext : t.next[0]? = some next) : HandsOver t decision next
  | accepted {next : String} (hkind : t.execution = .decision) (hnext : t.next[0]? = some next) :
      HandsOver t (some (.bool true)) next
  | declined {next : String} (hkind : t.execution = .decision) (hnext : t.next[1]? = some next) :
      HandsOver t (some (.bool false)) next
  /-- Whole numbers count from one. -/
  | numbered {number : Number} {n : Nat} {next : String} (hkind : t.execution = .decision)
      (hnumber : number.toNat? = some n) (hfrom : 1 ≤ n) (hto : n ≤ t.next.length)
      (hnext : t.next[n - 1]? = some next) : HandsOver t (some (.num number)) next

/-- The decision is neither a boolean nor the number of a next task. -/
structure Undecided (t : Task) (decision : Option Json) : Prop where
  not_bool : ∀ b, decision ≠ some (.bool b)
  not_number : ∀ number n, decision = some (.num number) → number.toNat? = some n →
    ¬(1 ≤ n ∧ n ≤ t.next.length)

theorem HandsOver.mem {t : Task} {decision : Option Json} {next : String}
    (h : HandsOver t decision next) : next ∈ t.next := by
  cases h with
  | sequential _ hnext => exact List.mem_of_getElem? hnext
  | accepted _ hnext => exact List.mem_of_getElem? hnext
  | declined _ hnext => exact List.mem_of_getElem? hnext
  | numbered _ _ _ _ hnext => exact List.mem_of_getElem? hnext

theorem HandsOver.not_terminal {t : Task} {decision : Option Json} {next : String}
    (h : HandsOver t decision next) : t.execution.isTerminal = false := by
  cases h with
  | sequential hkind => rw [hkind]; rfl
  | accepted hkind => rw [hkind]; rfl
  | declined hkind => rw [hkind]; rfl
  | numbered hkind => rw [hkind]; rfl

namespace Run

open TaskFlow.Mapping

/-! ## §2 Successor -/

theorem selected?_num {count : Nat} {number : Number} {i : Nat} :
    selected? count (.num number) = some i ↔
      ∃ n, number.toNat? = some n ∧ 1 ≤ n ∧ n ≤ count ∧ i = n - 1 := by
  simp only [selected?, Option.map_eq_some_iff, Option.filter_eq_some_iff, Bool.and_eq_true,
    decide_eq_true_eq]
  constructor
  · rintro ⟨n, ⟨hn, hfrom, hto⟩, rfl⟩
    exact ⟨n, hn, hfrom, hto, rfl⟩
  · rintro ⟨n, hn, hfrom, hto, rfl⟩
    exact ⟨n, ⟨hn, hfrom, hto⟩, rfl⟩

/-- A selection succeeds if the decision has a value that stands for the position of a next task. -/
theorem select_eq_ok_iff_selected {t : Task} {decision : Option Json} {next : String} :
    select t decision = .ok next ↔
      ∃ v i, decision = some v ∧ selected? t.next.length v = some i ∧ t.next[i]? = some next := by
  unfold select
  split
  · next found hfound =>
    obtain ⟨i, hi, hget⟩ := Option.bind_eq_some_iff.mp hfound
    obtain ⟨v, hv, hselected⟩ := Option.bind_eq_some_iff.mp hi
    constructor
    · intro h
      cases h
      exact ⟨v, i, hv, hselected, hget⟩
    · rintro ⟨w, j, hw, hj, hnext⟩
      cases hv.symm.trans hw
      cases hselected.symm.trans hj
      rw [Option.some.inj (hget.symm.trans hnext)]
  · next hnone =>
    constructor
    · intro h
      cases h
    · rintro ⟨v, i, rfl, hi, hnext⟩
      simp [hi, hnext] at hnone

/-- A decision task hands over to the task it selects. -/
theorem select_eq_ok_iff {t : Task} (hkind : t.execution = .decision) {decision : Option Json}
    {next : String} : select t decision = .ok next ↔ HandsOver t decision next := by
  rw [select_eq_ok_iff_selected]
  constructor
  · rintro ⟨v, i, rfl, hi, hnext⟩
    cases v with
    | bool b =>
      cases b with
      | true =>
        cases hi
        exact .accepted hkind hnext
      | false =>
        cases hi
        exact .declined hkind hnext
    | num number =>
      obtain ⟨n, hn, hfrom, hto, rfl⟩ := selected?_num.mp hi
      exact .numbered hkind hn hfrom hto hnext
    | _ => cases hi
  · intro h
    cases h with
    | sequential hother => cases hkind.symm.trans hother
    | accepted _ hnext => exact ⟨_, 0, rfl, rfl, hnext⟩
    | declined _ hnext => exact ⟨_, 1, rfl, rfl, hnext⟩
    | numbered _ hn hfrom hto hnext =>
      exact ⟨_, _, rfl, selected?_num.mpr ⟨_, hn, hfrom, hto, rfl⟩, hnext⟩

theorem successor_eq_some_iff {t : Task} {decision : Option Json} {next : String} :
    successor t decision = .ok (some next) ↔ HandsOver t decision next := by
  unfold successor
  cases hkind : t.execution with
  | sequential =>
    constructor
    · intro h
      cases hhead : t.next.head? with
      | none => simp [hhead] at h
      | some first =>
        rw [hhead] at h
        cases h
        exact .sequential hkind (by rw [← List.head?_eq_getElem?, hhead])
    · intro h
      cases h with
      | sequential _ hnext => simp [List.head?_eq_getElem?, hnext]
      | accepted hother => cases hkind.symm.trans hother
      | declined hother => cases hkind.symm.trans hother
      | numbered hother => cases hkind.symm.trans hother
  | decision =>
    rw [← select_eq_ok_iff hkind]
    cases select t decision <;> simp [Except.map]
  | finish =>
    constructor
    · intro h
      cases h
    · intro h
      exact absurd h.not_terminal (by rw [hkind]; decide)
  | sink =>
    constructor
    · intro h
      cases h
    · intro h
      exact absurd h.not_terminal (by rw [hkind]; decide)

/-- There is no successor after the terminal tasks, and after no other. -/
theorem successor_eq_none_iff {t : Task} {decision : Option Json} :
    successor t decision = .ok none ↔ t.execution.isTerminal = true := by
  unfold successor
  cases t.execution with
  | sequential => cases t.next.head? <;> simp [Execution.isTerminal]
  | decision => cases select t decision <;> simp [Except.map, Execution.isTerminal]
  | finish => simp [Execution.isTerminal]
  | sink => simp [Execution.isTerminal]

/-- A boolean selects one of the next tasks of a loaded decision task. -/
theorem exists_handsOver_of_bool {f : Flow} {t : Task} (ht : t ∈ f.tasks)
    (hkind : t.execution = .decision) (b : Bool) : ∃ next, HandsOver t (some (.bool b)) next := by
  have htwo := Flow.two_le_next_of_decision ht hkind
  cases b with
  | true => exact ⟨_, .accepted hkind (List.getElem?_eq_getElem (by omega))⟩
  | false => exact ⟨_, .declined hkind (List.getElem?_eq_getElem (by omega))⟩

/-- A loaded task has no successor to give only if it is undecided. -/
theorem successor_eq_error {f : Flow} {t : Task} (ht : t ∈ f.tasks) {decision : Option Json}
    {e : Error} (h : successor t decision = .error e) :
    t.execution = .decision ∧ Undecided t decision ∧
      e = .mapping (.badDecision t.name (describeDecision decision) t.next.length) := by
  have hnone : ∀ next, ¬HandsOver t decision next := by
    intro next hnext
    rw [successor_eq_some_iff.mpr hnext] at h
    cases h
  cases hkind : t.execution with
  | sequential =>
    obtain ⟨next, hnext⟩ := Flow.next_of_sequential ht hkind
    exact absurd (.sequential hkind (by rw [hnext]; rfl)) (hnone next)
  | decision =>
    refine ⟨rfl, ⟨?_, ?_⟩, ?_⟩
    · rintro b rfl
      obtain ⟨next, hnext⟩ := exists_handsOver_of_bool ht hkind b
      exact hnone next hnext
    · rintro number n rfl hn ⟨hfrom, hto⟩
      exact hnone _ (.numbered hkind hn hfrom hto (List.getElem?_eq_getElem (by omega)))
    · rw [successor, hkind] at h
      dsimp only at h
      unfold select at h
      split at h
      · cases h
      · cases h
        rfl
  | finish =>
    rw [successor_eq_none_iff.mpr (by rw [hkind]; rfl)] at h
    cases h
  | sink =>
    rw [successor_eq_none_iff.mpr (by rw [hkind]; rfl)] at h
    cases h

end Run

end TaskFlow
