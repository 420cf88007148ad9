/-
TaskFlow.Proofs.Document.Rules — which documents are accepted, and what is said of the others.

A document is checked part by part for what it lacks, and once more for the values that are wrong in
it. What comes out is stated here without either of these walks: which documents obey the rules
(`Obeys`), which rule is broken where (`Breaks`), and how the broken rules are listed (`Reported`).
A document that obeys the rules has all that its definition is made of, so nothing in the definition
is there for want of something else (`Becomes`).

  §1 Rules      — `Given`, `Obeys` and `Breaks`.
  §2 Problems   — the problems of a document are the rules that it breaks.
  §3 Order      — where a problem stands in the list.
  §4 Conversion — what an accepted document becomes.
  §5 Checks     — `check_exact`.
-/
import TaskFlow.Proofs.Document.Durations

namespace TaskFlow

open TaskFlow.Text

/-! ## §1 Rules -/

/-- The text is there and does not only hold blanks. -/
def Given (text : Option String) : Prop :=
  ∃ s, text = some s ∧ ∃ c ∈ s.toList, isBlank c = false

/-- The value is read as a time. -/
def IsDuration (v : Yaml.Value) : Prop :=
  ∃ millis, Duration.ofValue? v = some millis

/-- The names of the executions. -/
def executionNames : List String := ["sequential", "decision", "end", "sink"]

namespace FlowDocument

/-- The document obeys the rules. -/
structure Obeys (d : FlowDocument) : Prop where
  header : ∃ header, d.header = some header ∧ Given header.id
  start : Given d.firstTask
  tasks : d.tasks ≠ []
  route : ∀ t ∈ d.tasks, Given t.process
  execution : ∀ t ∈ d.tasks, ∃ name ∈ executionNames, t.execution = some name
  ttl : ∀ header v, d.header = some header → header.ttl = some v → IsDuration v
  timeout : ∀ t ∈ d.tasks, ∀ v, t.timeout = some v → IsDuration v

/-- The code of a part that is missing. -/
def missingCode : String := "ERR_DSL_VALIDATION_MISSING_REQUIRED_FIELD"

/-- The code of a value that is no time. -/
def durationCode : String := "ERR_DSL_VALIDATION_INVALID_DURATION"

/-- The code of a name that is none of an execution. -/
def executionCode : String := "ERR_DSL_VALIDATION_INVALID_EXECUTION_TYPE"

/-- The document breaks a rule: with the code of the rule, the path of the part that breaks it and
the problem that is reported. -/
inductive Breaks (d : FlowDocument) : String → String → DocumentProblem → Prop
  | noFlow (h : d.header = none) : Breaks d missingCode "flow" .noFlow
  | noFlowId {header : FlowHeader} (hheader : d.header = some header) (h : ¬Given header.id) :
      Breaks d missingCode "flow.id" .noFlowId
  | noStart (h : ¬Given d.firstTask) : Breaks d missingCode "first.task" .noStart
  | noTasks (h : d.tasks = []) : Breaks d missingCode "tasks" .noTasks
  | noRoute {i : Nat} {t : TaskEntry} (ht : d.tasks[i]? = some t) (h : ¬Given t.process) :
      Breaks d missingCode ("tasks[" ++ natText i ++ "].process") (.noRoute i)
  | noExecution {i : Nat} {t : TaskEntry} (ht : d.tasks[i]? = some t) (h : t.execution = none) :
      Breaks d missingCode ("tasks[" ++ natText i ++ "].execution") (.noExecution i)
  | badTtl {header : FlowHeader} {v : Yaml.Value} (hheader : d.header = some header)
      (hv : header.ttl = some v) (h : ¬IsDuration v) :
      Breaks d durationCode "flow.ttl" (.badTtl v)
  | badExecution {i : Nat} {t : TaskEntry} {name : String} (ht : d.tasks[i]? = some t)
      (hname : t.execution = some name) (h : name ∉ executionNames) :
      Breaks d executionCode ("tasks[" ++ natText i ++ "].execution") (.badExecution i name)
  | badTimeout {i : Nat} {t : TaskEntry} {v : Yaml.Value} (ht : d.tasks[i]? = some t)
      (hv : t.timeout = some v) (h : ¬IsDuration v) :
      Breaks d durationCode ("tasks[" ++ natText i ++ "].timeout") (.badTimeout i v)

end FlowDocument

/-! ## §2 Problems -/

theorem isVoid_eq_true_iff {text : Option String} : isVoid text = true ↔ ¬Given text := by
  rw [isVoid, List.isEmpty_iff, trim_eq_nil_iff, Given]
  cases text with
  | none => simp
  | some s => simp

theorem isBadDuration_eq_true_iff {v : Yaml.Value} : isBadDuration v = true ↔ ¬IsDuration v := by
  rw [IsDuration, ← isBadDuration_eq_false_iff, Bool.not_eq_false]

theorem Execution.exists_ofName?_iff {name : String} :
    (∃ execution, ofName? name = some execution) ↔ name ∈ executionNames := by
  constructor
  · rintro ⟨execution, h⟩
    rw [eq_name_of_ofName? h]
    cases execution <;> decide
  · intro h
    simp only [executionNames, List.mem_cons, List.not_mem_nil, or_false] at h
    rcases h with rfl | rfl | rfl | rfl
    · exact ⟨.sequential, by decide⟩
    · exact ⟨.decision, by decide⟩
    · exact ⟨.finish, by decide⟩
    · exact ⟨.sink, by decide⟩

theorem Execution.ofName?_isNone_iff {name : String} :
    (ofName? name).isNone = true ↔ name ∉ executionNames := by
  rw [← exists_ofName?_iff, ← Option.isSome_iff_exists]
  cases ofName? name <;> simp

section

variable {problem p : DocumentProblem} {d : FlowDocument}

theorem mem_complainIf {test : Bool} : p ∈ complainIf test problem ↔ test = true ∧ p = problem := by
  cases test <;> simp [complainIf]

theorem mem_complaints {α : Type} {field : Option α} {test : α → Bool}
    {problem : α → DocumentProblem} :
    (p ∈ field.toList.flatMap fun x => complainIf (test x) (problem x)) ↔
      ∃ x, field = some x ∧ test x = true ∧ p = problem x := by
  cases field <;> simp [mem_complainIf]

theorem mem_entries {tasks : List TaskEntry} {of : TaskEntry → Nat → List DocumentProblem} :
    (p ∈ tasks.zipIdx.flatMap fun (t, i) => of t i) ↔
      ∃ i t, tasks[i]? = some t ∧ p ∈ of t i := by
  simp only [List.mem_flatMap, Prod.exists, List.mk_mem_zipIdx_iff_getElem?]
  exact exists_comm

namespace TaskEntry

theorem mem_missing {t : TaskEntry} {i : Nat} :
    p ∈ t.missing i ↔
      ¬Given t.process ∧ p = .noRoute i ∨ t.execution = none ∧ p = .noExecution i := by
  rw [missing, List.mem_append, mem_complainIf, mem_complainIf, isVoid_eq_true_iff,
    Option.isNone_iff_eq_none]

theorem mem_wrong {t : TaskEntry} {i : Nat} :
    p ∈ t.wrong i ↔
      (∃ name, t.execution = some name ∧ name ∉ executionNames ∧ p = .badExecution i name) ∨
        ∃ v, t.timeout = some v ∧ ¬IsDuration v ∧ p = .badTimeout i v := by
  simp only [wrong, List.mem_append, mem_complaints, Execution.ofName?_isNone_iff,
    isBadDuration_eq_true_iff]

end TaskEntry

namespace FlowDocument

theorem mem_missingHeader :
    p ∈ d.missingHeader ↔ d.header = none ∧ p = .noFlow ∨
      ∃ header, d.header = some header ∧ ¬Given header.id ∧ p = .noFlowId := by
  unfold missingHeader
  cases d.header <;> simp [mem_complainIf, isVoid_eq_true_iff]

theorem mem_missing :
    p ∈ d.missing ↔ ((p ∈ d.missingHeader ∨ ¬Given d.firstTask ∧ p = .noStart) ∨
      d.tasks = [] ∧ p = .noTasks) ∨
        ∃ i, ∃ t : TaskEntry, d.tasks[i]? = some t ∧ p ∈ t.missing i := by
  simp only [missing, List.mem_append, mem_complainIf, isVoid_eq_true_iff, List.isEmpty_iff,
    mem_entries]

theorem mem_wrong :
    p ∈ d.wrong ↔ (∃ v, d.header.bind (·.ttl) = some v ∧ ¬IsDuration v ∧ p = .badTtl v) ∨
      ∃ i, ∃ t : TaskEntry, d.tasks[i]? = some t ∧ p ∈ t.wrong i := by
  simp only [wrong, List.mem_append, mem_complaints, isBadDuration_eq_true_iff, mem_entries]

/-- A rule that is broken is one of the problems, with its code and its path. -/
theorem Breaks.mem_problems {code path : String} (h : d.Breaks code path p) :
    p ∈ d.problems ∧ p.code = code ∧ p.path = path := by
  rw [problems, List.mem_append, mem_missing, mem_wrong]
  cases h with
  | noFlow h => exact ⟨by simp [mem_missingHeader, h], rfl, rfl⟩
  | noFlowId hheader h => exact ⟨by simp [mem_missingHeader, hheader, h], rfl, rfl⟩
  | noStart h => exact ⟨by simp [h], rfl, rfl⟩
  | noTasks h => exact ⟨by simp [h], rfl, rfl⟩
  | @noRoute i t ht h =>
    exact ⟨.inl (.inr ⟨i, t, ht, TaskEntry.mem_missing.mpr (.inl ⟨h, rfl⟩)⟩), rfl, rfl⟩
  | @noExecution i t ht h =>
    exact ⟨.inl (.inr ⟨i, t, ht, TaskEntry.mem_missing.mpr (.inr ⟨h, rfl⟩)⟩), rfl, rfl⟩
  | @badTtl header v hheader hv h =>
    exact ⟨.inr (.inl ⟨v, by rw [hheader]; exact hv, h, rfl⟩), rfl, rfl⟩
  | @badExecution i t name ht hname h =>
    exact ⟨.inr (.inr ⟨i, t, ht, TaskEntry.mem_wrong.mpr (.inl ⟨name, hname, h, rfl⟩)⟩), rfl, rfl⟩
  | @badTimeout i t v ht hv h =>
    exact ⟨.inr (.inr ⟨i, t, ht, TaskEntry.mem_wrong.mpr (.inr ⟨v, hv, h, rfl⟩)⟩), rfl, rfl⟩

/-- Every problem is a rule that is broken. -/
theorem breaks_of_mem (h : p ∈ d.problems) : d.Breaks p.code p.path p := by
  rw [problems, List.mem_append, mem_missing, mem_wrong] at h
  rcases h with
    (((hheader | ⟨hstart, rfl⟩) | ⟨htasks, rfl⟩) | ⟨i, t, ht, hmissing⟩) |
      ⟨v, hv, hbad, rfl⟩ | ⟨i, t, ht, hwrong⟩
  · rcases mem_missingHeader.mp hheader with ⟨hnone, rfl⟩ | ⟨header, hsome, hid, rfl⟩
    · exact .noFlow hnone
    · exact .noFlowId hsome hid
  · exact .noStart hstart
  · exact .noTasks htasks
  · rcases TaskEntry.mem_missing.mp hmissing with ⟨hroute, rfl⟩ | ⟨hexecution, rfl⟩
    · exact .noRoute ht hroute
    · exact .noExecution ht hexecution
  · obtain ⟨header, hheader, httl⟩ := Option.bind_eq_some_iff.mp hv
    exact .badTtl hheader httl hbad
  · rcases TaskEntry.mem_wrong.mp hwrong with ⟨name, hname, hbad, rfl⟩ | ⟨v, hv, hbad, rfl⟩
    · exact .badExecution ht hname hbad
    · exact .badTimeout ht hv hbad

theorem breaks_iff {code path : String} :
    d.Breaks code path p ↔ p ∈ d.problems ∧ p.code = code ∧ p.path = path := by
  constructor
  · exact Breaks.mem_problems
  · rintro ⟨hmem, rfl, rfl⟩
    exact breaks_of_mem hmem

/-- A document obeys the rules if it breaks none. -/
theorem obeys_iff : d.Obeys ↔ ∀ code path p, ¬d.Breaks code path p := by
  constructor
  · intro h code path p hbreaks
    obtain ⟨header, hheader, hid⟩ := h.header
    cases hbreaks with
    | noFlow hnone => cases hnone.symm.trans hheader
    | noFlowId hsome hvoid =>
      cases hsome.symm.trans hheader
      exact hvoid hid
    | noStart hvoid => exact hvoid h.start
    | noTasks hnone => exact h.tasks hnone
    | noRoute ht hvoid => exact hvoid (h.route _ (List.mem_of_getElem? ht))
    | noExecution ht hnone =>
      obtain ⟨name, -, hname⟩ := h.execution _ (List.mem_of_getElem? ht)
      cases hnone.symm.trans hname
    | badTtl hsome hv hbad => exact hbad (h.ttl _ _ hsome hv)
    | badExecution ht hname hbad =>
      obtain ⟨name, hmem, hsame⟩ := h.execution _ (List.mem_of_getElem? ht)
      cases hname.symm.trans hsame
      exact hbad hmem
    | badTimeout ht hv hbad => exact hbad (h.timeout _ (List.mem_of_getElem? ht) _ hv)
  · intro h
    constructor
    case header =>
      cases hheader : d.header with
      | none => exact absurd (.noFlow hheader) (h _ _ _)
      | some header =>
        exact ⟨header, rfl, not_not.mp fun hvoid => h _ _ _ (.noFlowId hheader hvoid)⟩
    case start => exact not_not.mp fun hvoid => h _ _ _ (.noStart hvoid)
    case tasks => exact fun hnone => h _ _ _ (.noTasks hnone)
    case route =>
      intro t hmem
      obtain ⟨i, ht⟩ := List.getElem?_of_mem hmem
      exact not_not.mp fun hvoid => h _ _ _ (.noRoute ht hvoid)
    case execution =>
      intro t hmem
      obtain ⟨i, ht⟩ := List.getElem?_of_mem hmem
      cases hname : t.execution with
      | none => exact absurd (.noExecution ht hname) (h _ _ _)
      | some name =>
        exact ⟨name, not_not.mp fun hbad => h _ _ _ (.badExecution ht hname hbad), rfl⟩
    case ttl =>
      exact fun header v hheader hv => not_not.mp fun hbad => h _ _ _ (.badTtl hheader hv hbad)
    case timeout =>
      intro t hmem v hv
      obtain ⟨i, ht⟩ := List.getElem?_of_mem hmem
      exact not_not.mp fun hbad => h _ _ _ (.badTimeout ht hv hbad)

end FlowDocument

end

/-! ## §3 Order -/

/-- Where a problem stands in a list of problems, compared like words: what is missing before what
is wrong, and either in the order of the document, which is the head, the first task, the list of
tasks and then the parts of each task. -/
def DocumentProblem.place : DocumentProblem → List Nat
  | noFlow | noFlowId => [0, 0]
  | noStart => [0, 1]
  | noTasks => [0, 2]
  | noRoute i => [0, 3, i, 0]
  | noExecution i => [0, 3, i, 1]
  | badTtl _ => [1, 0]
  | badExecution i _ => [1, 3, i, 1]
  | badTimeout i _ => [1, 3, i, 2]

/-- The first problem stands before the second. -/
def DocumentProblem.Before (p q : DocumentProblem) : Prop :=
  p.place < q.place

section

variable {p q : DocumentProblem} {d : FlowDocument}

theorem DocumentProblem.Before.ne (h : p.Before q) : p ≠ q := by
  rintro rfl
  exact List.lt_irrefl p.place h

theorem pairwise_complainIf {test : Bool} {problem : DocumentProblem} :
    (complainIf test problem).Pairwise DocumentProblem.Before := by
  cases test <;> simp [complainIf]

theorem pairwise_complaints {α : Type} {field : Option α} {test : α → Bool}
    {problem : α → DocumentProblem} :
    (field.toList.flatMap fun x => complainIf (test x) (problem x)).Pairwise
      DocumentProblem.Before := by
  cases field <;> simp [pairwise_complainIf]

/-- Problems of entries are in order if those of each entry are, for they stand with their entry. -/
theorem pairwise_entries {kind : Nat} {tasks : List TaskEntry}
    {of : TaskEntry → Nat → List DocumentProblem}
    (hown : ∀ t i, (of t i).Pairwise DocumentProblem.Before)
    (hplace : ∀ t i, ∀ p ∈ of t i, ∃ part, p.place = [kind, 3, i, part]) :
    (tasks.zipIdx.flatMap fun (t, i) => of t i).Pairwise DocumentProblem.Before := by
  have hpositions : tasks.zipIdx.Pairwise fun entry other => entry.2 < other.2 := by
    rw [← List.pairwise_map, List.zipIdx_map_snd]
    exact List.pairwise_lt_range' 1
  rw [List.pairwise_flatMap]
  refine ⟨fun entry _ => hown entry.1 entry.2, hpositions.imp fun hlt p hp q hq => ?_⟩
  obtain ⟨part, hp⟩ := hplace _ _ p hp
  obtain ⟨part', hq⟩ := hplace _ _ q hq
  simp [DocumentProblem.Before, hp, hq, List.cons_lt_cons_iff, hlt]

namespace TaskEntry

variable {t : TaskEntry} {i : Nat}

theorem place_of_mem_missing (h : p ∈ t.missing i) : ∃ part, p.place = [0, 3, i, part] := by
  rcases mem_missing.mp h with ⟨-, rfl⟩ | ⟨-, rfl⟩
  · exact ⟨0, rfl⟩
  · exact ⟨1, rfl⟩

theorem place_of_mem_wrong (h : p ∈ t.wrong i) : ∃ part, p.place = [1, 3, i, part] := by
  rcases mem_wrong.mp h with ⟨name, -, -, rfl⟩ | ⟨v, -, -, rfl⟩
  · exact ⟨1, rfl⟩
  · exact ⟨2, rfl⟩

theorem pairwise_missing : (t.missing i).Pairwise DocumentProblem.Before := by
  rw [missing, List.pairwise_append]
  refine ⟨pairwise_complainIf, pairwise_complainIf, fun p hp q hq => ?_⟩
  obtain ⟨-, rfl⟩ := mem_complainIf.mp hp
  obtain ⟨-, rfl⟩ := mem_complainIf.mp hq
  simp [DocumentProblem.Before, DocumentProblem.place, List.cons_lt_cons_iff]

theorem pairwise_wrong : (t.wrong i).Pairwise DocumentProblem.Before := by
  rw [wrong, List.pairwise_append]
  refine ⟨pairwise_complaints, pairwise_complaints, fun p hp q hq => ?_⟩
  obtain ⟨name, -, -, rfl⟩ := mem_complaints.mp hp
  obtain ⟨v, -, -, rfl⟩ := mem_complaints.mp hq
  simp [DocumentProblem.Before, DocumentProblem.place, List.cons_lt_cons_iff]

end TaskEntry

namespace FlowDocument

theorem place_of_mem_missingHeader (h : p ∈ d.missingHeader) : p.place = [0, 0] := by
  rcases mem_missingHeader.mp h with ⟨-, rfl⟩ | ⟨header, -, -, rfl⟩ <;> rfl

theorem place_of_mem_missing (h : p ∈ d.missing) : ∃ rest, p.place = 0 :: rest := by
  rcases mem_missing.mp h with ((hheader | ⟨-, rfl⟩) | ⟨-, rfl⟩) | ⟨i, t, -, hentry⟩
  · exact ⟨_, place_of_mem_missingHeader hheader⟩
  · exact ⟨_, rfl⟩
  · exact ⟨_, rfl⟩
  · obtain ⟨part, hplace⟩ := TaskEntry.place_of_mem_missing hentry
    exact ⟨_, hplace⟩

theorem place_of_mem_wrong (h : p ∈ d.wrong) : ∃ rest, p.place = 1 :: rest := by
  rcases mem_wrong.mp h with ⟨v, -, -, rfl⟩ | ⟨i, t, -, hentry⟩
  · exact ⟨_, rfl⟩
  · obtain ⟨part, hplace⟩ := TaskEntry.place_of_mem_wrong hentry
    exact ⟨_, hplace⟩

theorem pairwise_missing (d : FlowDocument) : d.missing.Pairwise DocumentProblem.Before := by
  have hheader : d.missingHeader.Pairwise DocumentProblem.Before := by
    unfold missingHeader
    cases d.header <;> simp [pairwise_complainIf]
  have hentries : (d.tasks.zipIdx.flatMap fun (t, i) => t.missing i).Pairwise
      DocumentProblem.Before := by
    exact pairwise_entries (fun _ _ => TaskEntry.pairwise_missing)
      (fun _ _ _ => TaskEntry.place_of_mem_missing)
  rw [missing, List.pairwise_append, List.pairwise_append, List.pairwise_append]
  refine ⟨⟨⟨hheader, pairwise_complainIf, fun p hp q hq => ?_⟩, pairwise_complainIf,
    fun p hp q hq => ?_⟩, hentries, fun p hp q hq => ?_⟩
  · obtain ⟨-, rfl⟩ := mem_complainIf.mp hq
    rw [DocumentProblem.Before, place_of_mem_missingHeader hp]
    decide
  · obtain ⟨-, rfl⟩ := mem_complainIf.mp hq
    rcases List.mem_append.mp hp with hhead | hstart
    · rw [DocumentProblem.Before, place_of_mem_missingHeader hhead]
      decide
    · obtain ⟨-, rfl⟩ := mem_complainIf.mp hstart
      simp [DocumentProblem.Before, DocumentProblem.place, List.cons_lt_cons_iff]
  · obtain ⟨i, t, -, hentry⟩ := mem_entries.mp hq
    obtain ⟨part, hplace⟩ := TaskEntry.place_of_mem_missing hentry
    have hfront : ∃ part, part < 3 ∧ p.place = [0, part] := by
      simp only [List.mem_append, mem_complainIf] at hp
      rcases hp with (hhead | ⟨-, rfl⟩) | ⟨-, rfl⟩
      · exact ⟨0, by decide, place_of_mem_missingHeader hhead⟩
      · exact ⟨1, by decide, rfl⟩
      · exact ⟨2, by decide, rfl⟩
    obtain ⟨front, hlt, hfront⟩ := hfront
    simp [DocumentProblem.Before, hfront, hplace, List.cons_lt_cons_iff, hlt]

theorem pairwise_wrong (d : FlowDocument) : d.wrong.Pairwise DocumentProblem.Before := by
  have hentries : (d.tasks.zipIdx.flatMap fun (t, i) => t.wrong i).Pairwise
      DocumentProblem.Before := by
    exact pairwise_entries (fun _ _ => TaskEntry.pairwise_wrong)
      (fun _ _ _ => TaskEntry.place_of_mem_wrong)
  rw [wrong, List.pairwise_append]
  refine ⟨pairwise_complaints, hentries, fun p hp q hq => ?_⟩
  obtain ⟨v, -, -, rfl⟩ := mem_complaints.mp hp
  obtain ⟨i, t, -, hentry⟩ := mem_entries.mp hq
  obtain ⟨part, hplace⟩ := TaskEntry.place_of_mem_wrong hentry
  rw [DocumentProblem.Before, hplace]
  simp [DocumentProblem.place, List.cons_lt_cons_iff]

/-- The problems of a document are in order. -/
theorem pairwise_problems (d : FlowDocument) : d.problems.Pairwise DocumentProblem.Before := by
  rw [problems, List.pairwise_append]
  refine ⟨d.pairwise_missing, d.pairwise_wrong, fun p hp q hq => ?_⟩
  obtain ⟨rest, hplace⟩ := place_of_mem_missing hp
  obtain ⟨rest', hplace'⟩ := place_of_mem_wrong hq
  simp [DocumentProblem.Before, hplace, hplace', List.cons_lt_cons_iff]

end FlowDocument

end

/-! ## §4 Conversion -/

/-- What an entry becomes. Its route and its execution are those that it gives, and it has a time if
it gives one. -/
structure TaskEntry.Becomes (entry : TaskEntry) (task : Task) : Prop where
  /-- A task without a name of its own goes by its route. -/
  name : task.name = entry.name.getD task.route
  route : entry.process = some task.route
  execution : entry.execution = some task.execution.name
  timeout : task.timeout = none ↔ entry.timeout = none
  input : task.input = entry.input
  output : task.output = entry.output
  next : task.next = entry.next
  monitorBefore : task.monitorBefore = entry.monitor.bind (·.before)
  monitorAfter : task.monitorAfter = entry.monitor.bind (·.after)

/-- What a document becomes. -/
structure FlowDocument.Becomes (d : FlowDocument) (definition : FlowDefinition) : Prop where
  header : ∃ header, d.header = some header ∧ header.id = some definition.id ∧
    (definition.ttl = none ↔ header.ttl = none)
  start : d.firstTask = some definition.firstTask
  tasks : List.Forall₂ TaskEntry.Becomes d.tasks definition.tasks

/-- A time that is read is not lost. -/
theorem ofOptional_eq_none_iff {field : Option Yaml.Value}
    (h : ∀ v, field = some v → IsDuration v) :
    Duration.ofOptional field = none ↔ field = none := by
  cases field with
  | none => simp [Duration.ofOptional]
  | some v =>
    obtain ⟨millis, hmillis⟩ := h v rfl
    simp [Duration.ofOptional, hmillis]

/-- An entry of which nothing is missing and nothing wrong becomes the task that it describes. -/
theorem TaskEntry.becomes_of_task {entry : TaskEntry} {task : Task} (h : entry.task = .ok task)
    (hroute : Given entry.process)
    (hexecution : ∃ name ∈ executionNames, entry.execution = some name)
    (htimeout : ∀ v, entry.timeout = some v → IsDuration v) : entry.Becomes task := by
  obtain ⟨name, hmem, hname⟩ := hexecution
  obtain ⟨execution, hfound⟩ := Execution.exists_ofName?_iff.mpr hmem
  obtain rfl := Execution.eq_name_of_ofName? hfound
  obtain ⟨route, hprocess, -⟩ := hroute
  unfold TaskEntry.task at h
  rw [hname, hprocess] at h
  dsimp only at h
  rw [hfound] at h
  cases h
  constructor
  case name =>
    rw [effectiveName, hprocess]
    cases entry.name <;> rfl
  case route => exact hprocess
  case execution => exact hname
  case timeout => exact ofOptional_eq_none_iff htimeout
  case monitorBefore | monitorAfter => cases entry.monitor <;> rfl
  all_goals rfl

/-- A document that obeys the rules becomes its definition. -/
theorem FlowDocument.Obeys.becomes {d : FlowDocument} {definition : FlowDefinition} (h : d.Obeys)
    (hdefinition : d.definition = .ok definition) : d.Becomes definition := by
  obtain ⟨tasks, htasks, heq⟩ := bind_eq_ok_iff.mp hdefinition
  cases heq
  constructor
  case header =>
    obtain ⟨header, hheader, id, hid, -⟩ := h.header
    refine ⟨header, hheader, ?_, ?_⟩
    · rw [hheader, hid]
      simp [hid]
    · rw [hheader]
      exact ofOptional_eq_none_iff fun v hv => h.ttl header v hheader hv
  case start =>
    obtain ⟨first, hfirst, -⟩ := h.start
    rw [hfirst]
    rfl
  case tasks =>
    have hentries : ∀ entry ∈ d.tasks, ∀ task, entry.task = .ok task → entry.Becomes task :=
      fun entry hmem task htask => TaskEntry.becomes_of_task htask (h.route entry hmem)
        (h.execution entry hmem) (h.timeout entry hmem)
    refine ((List.forall₂_and_left _ _).mpr ⟨hentries, mapM_eq_ok_iff.mp htasks⟩).imp ?_
    exact fun entry task hboth => hboth.1 task hboth.2

/-! ## §5 Checks -/

namespace FlowDocument

/-- What an error says of a document: the rules that it breaks, each once and in order, and under
the code of its own if there is only one. -/
structure Reported (d : FlowDocument) (e : DocumentError) : Prop where
  breaks_iff : ∀ code path problem, d.Breaks code path problem ↔
    problem ∈ e.problems ∧ problem.code = code ∧ problem.path = path
  once : e.problems.Nodup
  inOrder : e.problems.Pairwise DocumentProblem.Before
  code : ∃ first more, e = .invalid first more ∧
    e.code = if more.isEmpty then first.code else "ERR_DSL_VALIDATION_MULTIPLE"

theorem reported_of_check {d : FlowDocument} {e : DocumentError} (h : d.check = .error e) :
    d.Reported e := by
  unfold check at h
  split at h
  · cases h
  · next first more hproblems =>
    cases h
    have hall : (DocumentError.invalid first more).problems = d.problems := hproblems.symm
    constructor
    case breaks_iff =>
      rw [hall]
      exact fun code path problem => breaks_iff
    case once =>
      rw [hall]
      exact d.pairwise_problems.imp DocumentProblem.Before.ne
    case inOrder =>
      rw [hall]
      exact d.pairwise_problems
    case code =>
      refine ⟨first, more, rfl, ?_⟩
      cases more <;> rfl

/-- A document is accepted if and only if it obeys the rules; if it is not, the error lists the
rules that it breaks, and if it is, it becomes a definition. -/
theorem check_exact (d : FlowDocument) :
    (d.check = .ok () ↔ d.Obeys) ∧
    (∀ e, d.check = .error e → d.Reported e) ∧
    (d.check = .ok () → ∃ definition, d.definition = .ok definition ∧ d.Becomes definition) := by
  have hobeys : d.check = .ok () ↔ d.Obeys := by
    rw [check_eq_ok_iff, obeys_iff, List.eq_nil_iff_forall_not_mem]
    constructor
    · exact fun h code path p hbreaks => h p hbreaks.mem_problems.1
    · exact fun h p hmem => h _ _ p (breaks_of_mem hmem)
  refine ⟨hobeys, fun e => reported_of_check, fun h => ?_⟩
  obtain ⟨definition, hdefinition, -⟩ := exists_definition h
  exact ⟨definition, hdefinition, (hobeys.mp h).becomes hdefinition⟩

/-- A document without a first task, with two tasks, the second of them empty; and one that is
accepted. -/
theorem check_exact_orders :
    let faulty : FlowDocument :=
      { header := some { id := some "orders" }
        tasks := [{ process := some "v1.pay", execution := some "parallel" }, {}] }
    let sound : FlowDocument :=
      { header := some { id := some "orders" }
        firstTask := some "v1.pay"
        tasks := [{ process := some "v1.pay", execution := some "end" }] }
    (∃ e, faulty.check = .error e ∧ faulty.Reported e ∧ e.problems.map (·.path) =
      ["first.task", "tasks[1].process", "tasks[1].execution", "tasks[0].execution"]) ∧
    ∃ definition, sound.definition = .ok definition ∧ sound.Becomes definition := by
  intro faulty sound
  have hfaulty : faulty.check = .error (.invalid .noStart
      [.noRoute 1, .noExecution 1, .badExecution 0 "parallel"]) := rfl
  have hsound : sound.check = .ok () :=
    check_eq_ok_iff.mpr (List.eq_nil_of_length_eq_zero (by decide +kernel))
  exact ⟨⟨_, hfaulty, (check_exact faulty).2.1 _ hfaulty, by decide +kernel⟩,
    (check_exact sound).2.2 hsound⟩

end FlowDocument

end TaskFlow
