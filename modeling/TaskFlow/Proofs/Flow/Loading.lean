/-
TaskFlow.Proofs.Flow.Loading — which definitions load, and what is loaded.

`FlowDefinition.WellFormed` states the rules of a definition as they are meant: of its tasks and of
the whole, without passes over the tasks and without a set of names collected on the way. The list
of problems is empty for exactly these definitions, so that they load and no others do, and the flow
says all that its definition said.

  §1 Well-formed — the rules.
  §2 Tasks       — the problems of a task against its rules.
  §3 Definitions — the problems of a definition against its rules.
  §4 Look-up     — which names find a task.
  §5 Loading     — `Flow.load` against the rules, and the flow against its definition.
-/
import Mathlib.Data.List.Nodup
import TaskFlow.Flow.Basic
import TaskFlow.Proofs.Text.Cuts

namespace TaskFlow

open TaskFlow.Text

/-! ## §1 Well-formed -/

/-- As many next tasks as the execution of the task hands over to. -/
def Task.Branches (t : Task) : Prop :=
  match t.execution with
  | .sequential => t.next.length = 1
  | .decision => 2 ≤ t.next.length
  | .finish | .sink => t.next = []

/-- The rules for a task of a definition. -/
structure Task.WellFormed (d : FlowDefinition) (t : Task) : Prop where
  route : isServiceName t.route = true
  monitors : ∀ route, t.monitorBefore = some route ∨ t.monitorAfter = some route →
    isServiceName route = true
  branches : t.Branches
  next : ∀ next ∈ t.next, ∃ u ∈ d.tasks, u.name = next
  timeout : t.timeout ≠ some 0
  input : ∀ line ∈ t.input, ∃ parsed, Mapping.readInput line = .ok parsed
  /-- Only the lines of a decision task may decide. -/
  output : ∀ line ∈ t.output,
    ∃ parsed, Mapping.readOutput (decide (t.execution = .decision)) line = .ok parsed

/-- The rules for a definition. -/
structure FlowDefinition.WellFormed (d : FlowDefinition) : Prop where
  /-- The id is not blank. -/
  id : ∃ c ∈ d.id.toList, isBlank c = false
  inhabited : d.tasks ≠ []
  named : ∀ t ∈ d.tasks, t.name ≠ ""
  distinct : (d.tasks.map Task.name).Nodup
  tasks : ∀ t ∈ d.tasks, t.WellFormed d
  started : d.firstTask ≠ ""
  start : ∃ t ∈ d.tasks, t.name = d.firstTask
  ending : ∃ t ∈ d.tasks, t.execution = .finish

/-! ## §2 Tasks -/

theorem problemIf_eq_nil_iff {condition : Prop} [Decidable condition] {problem : FlowProblem} :
    problemIf condition problem = [] ↔ ¬condition := by
  unfold problemIf
  split <;> simp_all

namespace Task

variable {t : Task}

theorem mem_monitors {route : String} :
    route ∈ t.monitors ↔ t.monitorBefore = some route ∨ t.monitorAfter = some route := by
  rw [monitors, List.mem_append, Option.mem_toList, Option.mem_toList]

theorem routeProblems_eq_nil_iff :
    t.routeProblems = [] ↔ isServiceName t.route = true ∧
      ∀ route, t.monitorBefore = some route ∨ t.monitorAfter = some route →
        isServiceName route = true := by
  unfold routeProblems
  rw [List.append_eq_nil_iff, List.flatMap_eq_nil_iff, problemIf_eq_nil_iff, Bool.not_eq_false]
  refine and_congr_right fun _ => forall_congr' fun route => ?_
  rw [mem_monitors, problemIf_eq_nil_iff, Bool.not_eq_false]

theorem countProblems_eq_nil_iff : t.countProblems = [] ↔ t.Branches := by
  unfold countProblems Branches
  cases t.execution with
  | sequential => exact problemIf_eq_nil_iff.trans Decidable.not_not
  | decision => exact problemIf_eq_nil_iff.trans Nat.not_lt
  | finish | sink =>
    exact problemIf_eq_nil_iff.trans (by rw [List.length_pos_iff, Decidable.not_not])

theorem lineProblems_eq_nil_iff {τ : Type} {read : String → Except LineFault τ}
    {lines : List String} :
    t.lineProblems read lines = [] ↔ ∀ line ∈ lines, ∃ parsed, read line = .ok parsed := by
  unfold lineProblems
  rw [List.flatMap_eq_nil_iff]
  refine forall₂_congr fun line _ => ?_
  cases read line <;> simp

theorem nextProblems_eq_nil_iff {names : List String} :
    t.nextProblems names = [] ↔ ∀ next ∈ t.next, next ∈ names := by
  unfold nextProblems
  rw [List.flatMap_eq_nil_iff]
  refine forall₂_congr fun next _ => ?_
  rw [problemIf_eq_nil_iff, Decidable.not_not]

/-- A task has no problems exactly if it obeys the rules, provided that the names are those of the
tasks of its definition. -/
theorem problems_eq_nil_iff {d : FlowDefinition} {names : List String}
    (hnames : ∀ name, name ∈ names ↔ ∃ u ∈ d.tasks, u.name = name) :
    t.problems names = [] ↔ t.WellFormed d := by
  have hnext : t.nextProblems names = [] ↔ ∀ next ∈ t.next, ∃ u ∈ d.tasks, u.name = next := by
    rw [nextProblems_eq_nil_iff]
    exact forall₂_congr fun next _ => hnames next
  unfold problems
  simp only [List.append_eq_nil_iff, routeProblems_eq_nil_iff, countProblems_eq_nil_iff, hnext,
    problemIf_eq_nil_iff, lineProblems_eq_nil_iff]
  constructor
  · rintro ⟨⟨⟨⟨⟨⟨hroute, hmonitors⟩, hbranches⟩, hdeclared⟩, htimeout⟩, hinput⟩, houtput⟩
    exact ⟨hroute, hmonitors, hbranches, hdeclared, htimeout, hinput, houtput⟩
  · rintro ⟨hroute, hmonitors, hbranches, hdeclared, htimeout, hinput, houtput⟩
    exact ⟨⟨⟨⟨⟨⟨hroute, hmonitors⟩, hbranches⟩, hdeclared⟩, htimeout⟩, hinput⟩, houtput⟩

end Task

/-! ## §3 Definitions -/

/-- The tasks have names, none of them seen before, and no two of them the same. -/
theorem nameProblems_eq_nil_iff {seen : List String} {tasks : List Task} :
    nameProblems seen tasks = [] ↔
      (∀ t ∈ tasks, t.name ≠ "") ∧ (∀ t ∈ tasks, t.name ∉ seen) ∧ (tasks.map Task.name).Nodup := by
  fun_induction nameProblems seen tasks with
  | case1 => simp
  | case2 seen t rest hname => simp [hname]
  | case3 seen t rest hname hseen => simp [hseen]
  | case4 seen t rest hname hseen ih =>
    rw [ih, List.forall_mem_cons, List.forall_mem_cons]
    simp only [List.map_cons, List.nodup_cons, List.mem_cons, not_or, List.mem_map, not_exists,
      not_and]
    constructor
    · rintro ⟨hnamed, hfresh, hnodup⟩
      exact ⟨⟨hname, hnamed⟩, ⟨hseen, fun u hu => (hfresh u hu).2⟩,
        fun u hu => (hfresh u hu).1, hnodup⟩
    · rintro ⟨⟨-, hnamed⟩, ⟨-, hfresh⟩, hother, hnodup⟩
      exact ⟨hnamed, fun u hu => ⟨hother u hu, hfresh u hu⟩, hnodup⟩

namespace FlowDefinition

variable {d : FlowDefinition}

theorem mem_taskNames (hnamed : ∀ t ∈ d.tasks, t.name ≠ "") (name : String) :
    name ∈ d.taskNames ↔ ∃ t ∈ d.tasks, t.name = name := by
  unfold taskNames
  rw [List.mem_filter, List.mem_map]
  refine and_iff_left_of_imp ?_
  rintro ⟨t, ht, rfl⟩
  exact decide_eq_true (hnamed t ht)

theorem startProblems_eq_nil_iff :
    d.startProblems = [] ↔ d.firstTask ≠ "" ∧ d.firstTask ∈ d.taskNames := by
  unfold startProblems
  split
  · next hempty => simp [hempty]
  · next hnamed => rw [problemIf_eq_nil_iff, Decidable.not_not, and_iff_right hnamed]

theorem missingId_eq_nil_iff :
    problemIf ((trim d.id.toList).isEmpty = true) .missingId = [] ↔
      ∃ c ∈ d.id.toList, isBlank c = false := by
  rw [problemIf_eq_nil_iff, List.isEmpty_iff, trim_eq_nil_iff]
  simp

theorem noEndTask_eq_nil_iff :
    problemIf (∀ t ∈ d.tasks, t.execution ≠ .finish) .noEndTask = [] ↔
      ∃ t ∈ d.tasks, t.execution = .finish := by
  rw [problemIf_eq_nil_iff]
  simp

/-- A definition has no problems exactly if it obeys the rules. -/
theorem problems_eq_nil_iff : d.problems = [] ↔ d.WellFormed := by
  unfold problems
  simp only [List.append_eq_nil_iff, missingId_eq_nil_iff, noEndTask_eq_nil_iff,
    nameProblems_eq_nil_iff, startProblems_eq_nil_iff, List.flatMap_eq_nil_iff]
  -- once every task has a name, the names are those of the tasks
  constructor
  · rintro ⟨⟨⟨⟨⟨hid, hinhabited⟩, hnamed, -, hdistinct⟩, htasks⟩, hstarted, hstart⟩, hending⟩
    have hnames := mem_taskNames hnamed
    exact ⟨hid, problemIf_eq_nil_iff.mp hinhabited, hnamed, hdistinct,
      fun t ht => (Task.problems_eq_nil_iff hnames).mp (htasks t ht), hstarted,
      (hnames _).mp hstart, hending⟩
  · rintro ⟨hid, hinhabited, hnamed, hdistinct, htasks, hstarted, hstart, hending⟩
    have hnames := mem_taskNames hnamed
    exact ⟨⟨⟨⟨⟨hid, problemIf_eq_nil_iff.mpr hinhabited⟩, hnamed, by simp, hdistinct⟩,
      fun t ht => (Task.problems_eq_nil_iff hnames).mpr (htasks t ht)⟩, hstarted,
      (hnames _).mpr hstart⟩, hending⟩

instance : DecidablePred WellFormed := fun _ => decidable_of_iff _ problems_eq_nil_iff

end FlowDefinition

/-! ## §4 Look-up -/

namespace Flow

variable {f : Flow} {name : String}

/-- A loaded flow obeys the rules. -/
theorem wellFormed (f : Flow) : f.definition.WellFormed :=
  FlowDefinition.problems_eq_nil_iff.mp f.valid

theorem task_eq_ok {t : Task} (h : f.task name = .ok t) : t ∈ f.tasks ∧ t.name = name := by
  unfold task at h
  split at h
  · next found hfound =>
    cases h
    exact ⟨List.mem_of_find?_eq_some hfound, by simpa using List.find?_some hfound⟩
  · cases h

/-- A name that no task has finds none. -/
theorem task_of_not_declared (h : ∀ t ∈ f.tasks, t.name ≠ name) :
    f.task name = .error (.taskNotFound f.id name) := by
  have hnone : f.tasks.find? (·.name == name) = none :=
    List.find?_eq_none.mpr fun t ht hname => h t ht (beq_iff_eq.mp hname)
  rw [task, hnone]

theorem exists_task_of_declared (h : ∃ t ∈ f.tasks, t.name = name) : ∃ t, f.task name = .ok t := by
  obtain ⟨t, hmem, hname⟩ := h
  unfold task
  cases hfound : f.tasks.find? (·.name == name) with
  | some found => exact ⟨found, rfl⟩
  | none => exact absurd (beq_iff_eq.mpr hname) (List.find?_eq_none.mp hfound t hmem)

/-- Since no two tasks have the same name, a task is found by its own. -/
theorem task_of_mem {t : Task} (h : t ∈ f.tasks) : f.task t.name = .ok t := by
  obtain ⟨u, hu⟩ := exists_task_of_declared (f := f) ⟨t, h, rfl⟩
  obtain ⟨humem, huname⟩ := task_eq_ok hu
  rw [hu, List.inj_on_of_nodup_map f.wellFormed.distinct humem h huname]

/-! ## §5 Loading -/

theorem load_of_wellFormed {d : FlowDefinition} (h : d.WellFormed) :
    ∃ f, load d = .ok f ∧ f.definition = d := by
  unfold load
  rw [dif_pos (FlowDefinition.problems_eq_nil_iff.mpr h)]
  exact ⟨_, rfl, rfl⟩

theorem load_of_not_wellFormed {d : FlowDefinition} (h : ¬d.WellFormed) :
    d.problems ≠ [] ∧ load d = .error (.flowLoad (.invalid d.id d.problems)) := by
  have hproblems : d.problems ≠ [] := fun hnil => h (FlowDefinition.problems_eq_nil_iff.mp hnil)
  exact ⟨hproblems, dif_neg hproblems⟩

/-- The flow says all that the definition says. -/
structure Keeps (f : Flow) (d : FlowDefinition) : Prop where
  id : f.id = d.id
  description : f.definition.description = d.description
  firstTask : f.firstTask = d.firstTask
  /-- The tasks, with all that is declared of them, in the order of their declaration. -/
  tasks : f.tasks = d.tasks
  distinct : f.tasks.Nodup
  found : ∀ t ∈ d.tasks, f.task t.name = .ok t
  missing : ∀ name, (∀ t ∈ d.tasks, t.name ≠ name) → f.task name = .error (.taskNotFound d.id name)
  /-- The lifetime is a second at least. -/
  ttl : f.ttl = d.ttl.map (max 1000)

theorem keeps (f : Flow) : f.Keeps f.definition :=
  ⟨rfl, rfl, rfl, rfl, f.wellFormed.distinct.of_map, fun _ => task_of_mem,
    fun _ => task_of_not_declared, rfl⟩

/-- A definition loads exactly if it is well-formed, and then nothing of it is lost. Any other is
refused with the list of its problems, of which there is at least one. -/
theorem load_iff_wellFormed (d : FlowDefinition) :
    ((∃ f, load d = .ok f) ↔ d.WellFormed) ∧
      (∀ f, load d = .ok f → f.Keeps d) ∧
      (¬d.WellFormed →
        d.problems ≠ [] ∧ load d = .error (.flowLoad (.invalid d.id d.problems))) := by
  refine ⟨⟨?_, ?_⟩, ?_, load_of_not_wellFormed⟩
  · rintro ⟨f, hf⟩
    by_contra hnot
    cases hf.symm.trans (load_of_not_wellFormed hnot).2
  · intro hwell
    obtain ⟨f, hf, -⟩ := load_of_wellFormed hwell
    exact ⟨f, hf⟩
  · intro f hf
    by_cases hwell : d.WellFormed
    · obtain ⟨g, hg, hdefinition⟩ := load_of_wellFormed hwell
      obtain rfl : g = f := Except.ok.inj (hg.symm.trans hf)
      rw [← hdefinition]
      exact g.keeps
    · cases hf.symm.trans (load_of_not_wellFormed hwell).2

end Flow

end TaskFlow
