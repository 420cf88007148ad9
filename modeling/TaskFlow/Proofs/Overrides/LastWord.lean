/-
TaskFlow.Proofs.Overrides.LastWord — what is effective for a task is what was said of it last.

The records answer as if they kept nothing but the history of the commands. A command that is
granted may have a word for the route of a task or for one of its monitors: a value, or that it is
as declared again. The last such word is what `routeOf` and `monitorOf` go by, and the declaration
where there is none.

  §1 Words     — what commands say, and the last word of a history; no records are involved.
  §2 Records   — what each change makes of the record of a task.
  §3 Commands  — which commands are granted, and what they make of the record of a task.
  §4 Histories — the records after any history of commands.
-/
import Mathlib.Data.List.Induction
import TaskFlow.Overrides
import TaskFlow.Proofs.Attempt
import TaskFlow.Proofs.Flow.Rules

namespace TaskFlow.Overrides

/-! ## §1 Words -/

/-- A command for the flow with an id. -/
structure Ask where
  flowId : String
  command : Command

/-- The task that a command is about, nothing for the whole flow. -/
def Command.task? : Command → Option String
  | .route task | .reassign task _ | .setMonitor task _ _ | .clearMonitors task
  | .resetTask task => some task
  | .reset => none

/-- The route that a command brings in. -/
def Command.route? : Command → Option String
  | .reassign _ service | .setMonitor _ service _ => some service
  | .route _ | .clearMonitors _ | .resetTask _ | .reset => none

/-- A command on a flow is about a task. -/
def Command.covers (flowId : String) (key : TaskKey) (command : Command) : Bool :=
  flowId == key.1 && command.task?.all (· == key.2)

/-- The flow of a command that is granted: the catalog has it, it has the task, and the route is a
service name. -/
def granted? (c : Catalog) (a : Ask) : Option Flow :=
  match c.flow a.flowId with
  | .ok f =>
    if a.command.task?.all (fun task => f.tasks.any (·.name == task)) &&
        a.command.route?.all isServiceName then some f
    else none
  | .error _ => none

/-- What a command says of the route of the tasks it is about: that it is another one, or the
declared one again. -/
def Command.routeWord : Command → Option (Option String)
  | .reassign _ service => some (some service)
  | .resetTask _ | .reset => some none
  | .route _ | .setMonitor .. | .clearMonitors _ => none

/-- What it says of the monitor at a position. -/
def Command.monitorWord (position : Position) : Command → Option (Option MonitorOverride)
  | .setMonitor _ service place => if place = position then some (some (.set service)) else none
  | .clearMonitors _ => some (some .cleared)
  | .resetTask _ | .reset => some none
  | .route _ | .reassign .. => none

section

variable {α : Type} (c : Catalog) (key : TaskKey) (word : Command → Option (Option α))

/-- What a command says of a task, if it is granted. -/
def said (a : Ask) : Option (Option α) :=
  (granted? c a).bind fun f => if a.command.covers f.id key then word a.command else none

/-- The last word of a history on a task: nothing if there is none, or if it leaves the task to its
declaration. -/
def lastWord (asks : List Ask) : Option α :=
  (asks.filterMap (said c key word)).getLast?.join

theorem lastWord_concat (asks : List Ask) (a : Ask) :
    lastWord c key word (asks ++ [a]) =
      (said c key word a).getD (lastWord c key word asks) := by
  unfold lastWord
  cases hsaid : said c key word a with
  | none => simp [List.filterMap_append, hsaid]
  | some w => simp [List.filterMap_append, hsaid]

end

/-! ## §2 Records -/

variable {o : Overrides} {key other : TaskKey}

theorem record_filter_of_keep {keep : TaskKey × TaskOverride → Bool}
    (h : ∀ entry, entry.1 = key → keep entry = true) (o : Overrides) :
    record ⟨o.records.filter keep⟩ key = o.record key := by
  unfold record
  rw [List.find?_filter]
  congr 3
  funext entry
  by_cases hkey : entry.1 = key
  · simp [hkey, h entry hkey]
  · simp [hkey]

theorem record_filter_of_drop {keep : TaskKey × TaskOverride → Bool}
    (h : ∀ entry, entry.1 = key → keep entry = false) (o : Overrides) :
    record ⟨o.records.filter keep⟩ key = {} := by
  have hnone : (o.records.filter keep).find? (·.1 == key) = none := by
    rw [List.find?_eq_none]
    intro entry hentry hkey
    have hkeep := (List.mem_filter.mp hentry).2
    rw [h entry (beq_iff_eq.mp hkey)] at hkeep
    cases hkeep
  unfold record
  rw [hnone]
  rfl

theorem record_dropTask (o : Overrides) (key other : TaskKey) :
    (o.dropTask key).record other = if other = key then {} else o.record other := by
  split
  · next heq =>
    subst heq
    exact record_filter_of_drop (by simp) o
  · next hne => exact record_filter_of_keep (by rintro entry rfl; simpa using hne) o

theorem record_dropFlow (o : Overrides) (flowId : String) (key : TaskKey) :
    (o.dropFlow flowId).record key = if key.1 = flowId then {} else o.record key := by
  split
  · next heq => exact record_filter_of_drop (by rintro entry rfl; simpa using heq) o
  · next hne => exact record_filter_of_keep (by rintro entry rfl; simpa using hne) o

theorem record_update (o : Overrides) (key other : TaskKey) (f : TaskOverride → TaskOverride) :
    (o.update key f).record other = if other = key then f (o.record key) else o.record other := by
  split
  · next heq => simp [heq, update, record]
  · next hne =>
    have hdrop := record_dropTask o key other
    rw [if_neg hne] at hdrop
    rw [← hdrop]
    simp [update, record, Ne.symm hne]

/-! ## §3 Commands -/

/-- What a granted command makes of the record of a task that it is about. -/
def Command.changed (r : TaskOverride) : Command → TaskOverride
  | .route _ => r
  | .reassign _ service => { r with route := some service }
  | .setMonitor _ service position => r.withMonitor position (.set service)
  | .clearMonitors _ => (r.withMonitor .before .cleared).withMonitor .after .cleared
  | .resetTask _ | .reset => {}

theorem changed_route (command : Command) (r : TaskOverride) :
    (command.changed r).route = command.routeWord.getD r.route := by
  cases command with
  | setMonitor _ _ position => cases position <;> rfl
  | _ => rfl

theorem changed_monitor (command : Command) (r : TaskOverride) (position : Position) :
    (command.changed r).monitor position =
      (command.monitorWord position).getD (r.monitor position) := by
  cases command with
  | setMonitor _ _ place => cases place <;> cases position <;> rfl
  | _ => cases position <;> rfl

/-- Why a command is refused. -/
inductive Refused (c : Catalog) (a : Ask) : Error → Prop
  | flow (habsent : c.contains a.flowId = false) : Refused c a (.flowNotFound a.flowId)
  | task {f : Flow} {task : String} (hflow : c.flow a.flowId = .ok f)
      (htask : a.command.task? = some task) (habsent : ∀ t ∈ f.tasks, t.name ≠ task) :
      Refused c a (.taskNotFound f.id task)
  | route {f : Flow} {route : String} (hflow : c.flow a.flowId = .ok f)
      (hroute : a.command.route? = some route) (hinvalid : isServiceName route = false) :
      Refused c a (.invalidRoute route)

/-- The task that a command is about is there, or it is missing. -/
theorem task_cases (f : Flow) (command : Command) :
    (command.task?.all (fun task => f.tasks.any (·.name == task)) = true ∧
        ∀ task ∈ command.task?, ∃ t, f.task task = .ok t ∧ t.name = task) ∨
      ∃ task, command.task? = some task ∧ f.tasks.any (·.name == task) = false ∧
        (∀ t ∈ f.tasks, t.name ≠ task) ∧ f.task task = .error (.taskNotFound f.id task) := by
  cases hcommand : command.task? with
  | none =>
    refine Or.inl ⟨rfl, ?_⟩
    intro task htask
    cases htask
  | some task =>
    cases hfound : f.tasks.find? (·.name == task) with
    | some t =>
      have htask : f.task task = .ok t := by rw [Flow.task, hfound]
      have hname : t.name = task := (Flow.task_eq_ok htask).2
      refine Or.inl ⟨?_, ?_⟩
      · exact List.any_eq_true.mpr ⟨t, List.mem_of_find?_eq_some hfound, beq_iff_eq.mpr hname⟩
      · rintro _ ⟨⟩
        exact ⟨t, htask, hname⟩
    | none =>
      have habsent : ∀ t ∈ f.tasks, t.name ≠ task := by simpa using hfound
      refine Or.inr ⟨task, rfl, by simpa using habsent, habsent, ?_⟩
      rw [Flow.task, hfound]

/-- The route that a command brings in is a service name, or it is not. -/
theorem route_cases (command : Command) :
    (command.route?.all isServiceName = true ∧
        ∀ route ∈ command.route?, checkRoute route = .ok ()) ∨
      ∃ route, command.route? = some route ∧ isServiceName route = false ∧
        checkRoute route = .error (.invalidRoute route) := by
  cases command.route? with
  | none =>
    refine Or.inl ⟨rfl, ?_⟩
    intro route hroute
    cases hroute
  | some route =>
    cases hvalid : isServiceName route with
    | true =>
      refine Or.inl ⟨hvalid, ?_⟩
      rintro _ ⟨⟩
      exact if_pos hvalid
    | false => exact Or.inr ⟨route, rfl, hvalid, if_neg (by simp [hvalid])⟩

theorem covers_of_task {command : Command} {task : String} (h : command.task? = some task)
    (flowId : String) (key : TaskKey) :
    command.covers flowId key = true ↔ key = (flowId, task) := by
  rw [Command.covers, h, Option.all_some, Bool.and_eq_true, beq_iff_eq, beq_iff_eq, Prod.ext_iff]
  exact and_congr eq_comm eq_comm

theorem covers_of_flow {command : Command} (h : command.task? = none) (flowId : String)
    (key : TaskKey) : command.covers flowId key = true ↔ key.1 = flowId := by
  rw [Command.covers, h, Option.all_none, Bool.and_true, beq_iff_eq]
  exact eq_comm

/-- An update of the record of a task, seen at every task. -/
theorem record_update_eq {command : Command} {task : String} (h : command.task? = some task)
    {flowId : String} (o : Overrides) (key : TaskKey) :
    (o.update (flowId, task) (command.changed ·)).record key =
      if command.covers flowId key then command.changed (o.record key) else o.record key := by
  rw [record_update]
  simp only [covers_of_task h]
  split
  · next heq => rw [heq]
  · rfl

/-- A command whose task and route are in order is carried out: the record of every task that it
is about changes, and no other. -/
theorem perform_eq_ok {f : Flow} {command : Command} (o : Overrides)
    (htask : ∀ task ∈ command.task?, ∃ t, f.task task = .ok t ∧ t.name = task)
    (hroute : ∀ route ∈ command.route?, checkRoute route = .ok ()) :
    ∃ next reply, o.perform f command = .ok (next, reply) ∧
      ∀ key, next.record key =
        if command.covers f.id key then command.changed (o.record key) else o.record key := by
  cases command with
  | route task =>
    obtain ⟨t, ht, -⟩ := htask task rfl
    refine ⟨o, .route (o.routeOf f.id t), ?_, fun key => (ite_self _).symm⟩
    simp [perform, ht, bind, Except.bind]
  | reassign task service =>
    obtain ⟨t, ht, rfl⟩ := htask task rfl
    refine ⟨_, .route (o.routeOf f.id t), ?_, record_update_eq rfl o⟩
    simp [perform, ht, hroute service rfl, bind, Except.bind, Command.changed]
  | setMonitor task service position =>
    obtain ⟨t, ht, rfl⟩ := htask task rfl
    refine ⟨_, .done, ?_, record_update_eq rfl o⟩
    simp [perform, ht, hroute service rfl, bind, Except.bind, Command.changed]
  | clearMonitors task =>
    obtain ⟨t, ht, rfl⟩ := htask task rfl
    refine ⟨_, .done, ?_, record_update_eq rfl o⟩
    simp [perform, ht, bind, Except.bind, Command.changed]
  | resetTask task =>
    obtain ⟨t, ht, rfl⟩ := htask task rfl
    refine ⟨o.dropTask (f.id, t.name), .done, ?_, ?_⟩
    · simp [perform, ht, bind, Except.bind]
    · intro key
      rw [record_dropTask]
      simp only [covers_of_task (show Command.task? (.resetTask t.name) = some t.name from rfl)]
      rfl
  | reset =>
    refine ⟨o.dropFlow f.id, .done, rfl, ?_⟩
    intro key
    rw [record_dropFlow]
    simp only [covers_of_flow (show Command.task? .reset = none from rfl)]
    rfl

/-- A command on a task that is not there fails. -/
theorem perform_of_missing {f : Flow} {command : Command} {task : String} {e : Error}
    (o : Overrides) (htask : command.task? = some task) (habsent : f.task task = .error e) :
    o.perform f command = .error e := by
  cases command with
  | reset => cases htask
  | _ =>
    cases htask
    simp [perform, habsent, bind, Except.bind]

/-- So does one that brings in a route that cannot be. -/
theorem perform_of_invalid {f : Flow} {command : Command} {route : String} {e : Error}
    (o : Overrides) (htask : ∀ task ∈ command.task?, ∃ t, f.task task = .ok t ∧ t.name = task)
    (hroute : command.route? = some route) (hinvalid : checkRoute route = .error e) :
    o.perform f command = .error e := by
  cases command with
  | reassign task | setMonitor task =>
    cases hroute
    obtain ⟨t, ht, -⟩ := htask task rfl
    simp [perform, ht, hinvalid, bind, Except.bind]
  | _ => cases hroute

/-- What can come of a command: it is granted and changes the records that it covers, or it is
refused and changes none. -/
inductive Applied (c : Catalog) (o : Overrides) (a : Ask) : Overrides × Except Error Reply → Prop
  | granted {f : Flow} {next : Overrides} {reply : Reply} (hgranted : granted? c a = some f)
      (hflow : c.flow a.flowId = .ok f)
      (hrecord : ∀ key, next.record key =
        if a.command.covers f.id key then a.command.changed (o.record key) else o.record key) :
      Applied c o a (next, .ok reply)
  | refused {e : Error} (hgranted : granted? c a = none) (hrefused : Refused c a e) :
      Applied c o a (o, .error e)

theorem applied (c : Catalog) (o : Overrides) (a : Ask) :
    Applied c o a (o.apply c a.flowId a.command) := by
  unfold apply
  cases hfound : Dictionary.get? a.flowId c.flows with
  | none =>
    have hflow : c.flow a.flowId = .error (.flowNotFound a.flowId) := by rw [Catalog.flow, hfound]
    rw [hflow]
    have hmissing : c.contains a.flowId = false := by
      rw [Catalog.contains, Dictionary.contains, hfound]
      rfl
    exact .refused (by rw [granted?, hflow]) (.flow hmissing)
  | some f =>
    have hflow : c.flow a.flowId = .ok f := by rw [Catalog.flow, hfound]
    rw [hflow]
    dsimp only
    -- the task first: nothing else is looked at while it is missing
    rcases task_cases f a.command with ⟨hthere, htask⟩ | ⟨task, htask, hthere, habsent, hmissing⟩
    · rcases route_cases a.command with ⟨hvalid, hroute⟩ | ⟨route, hroute, hinvalid, hcheck⟩
      · obtain ⟨next, reply, hperform, hrecord⟩ := perform_eq_ok o htask hroute
        rw [hperform]
        exact .granted (by simp [granted?, hflow, hthere, hvalid]) hflow hrecord
      · rw [perform_of_invalid o htask hroute hcheck]
        exact .refused (by simp [granted?, hflow, hroute, hinvalid]) (.route hflow hroute hinvalid)
    · rw [perform_of_missing o htask hmissing]
      exact .refused (by simp [granted?, hflow, htask, hthere]) (.task hflow htask habsent)

namespace Applied

variable {c : Catalog} {o : Overrides} {a : Ask} {result : Overrides × Except Error Reply}

theorem succeeds_iff (h : Applied c o a result) :
    (∃ reply, result.2 = .ok reply) ↔ ∃ f, granted? c a = some f := by
  cases h with
  | granted hgranted => simp [hgranted]
  | refused hgranted => simp [hgranted]

theorem unchanged_of_error (h : Applied c o a result) {e : Error} (he : result.2 = .error e) :
    result.1 = o ∧ Refused c a e := by
  cases h with
  | granted => cases he
  | refused _ hrefused =>
    cases he
    exact ⟨rfl, hrefused⟩

theorem record_of_not_covers (h : Applied c o a result) {key : TaskKey}
    (hother : ∀ f, c.flow a.flowId = .ok f → a.command.covers f.id key = false) :
    result.1.record key = o.record key := by
  cases h with
  | granted _ hflow hrecord => rw [hrecord, hother _ hflow, if_neg Bool.false_ne_true]
  | refused => rfl

end Applied

/-- A reassignment answers with the route that the task had. -/
theorem apply_reassign {c : Catalog} {o : Overrides} {flowId task service : String} {reply : Reply}
    (h : (o.apply c flowId (.reassign task service)).2 = .ok reply) :
    ∃ f t, c.flow flowId = .ok f ∧ f.task task = .ok t ∧ reply = .route (o.routeOf f.id t) := by
  unfold apply at h
  split at h
  · cases h
  · next f hflow =>
    split at h
    · next next found hperform =>
      cases h
      obtain ⟨t, htask, hperform⟩ := bind_eq_ok_iff.mp hperform
      obtain ⟨-, -, hdone⟩ := bind_eq_ok_iff.mp hperform
      cases hdone
      exact ⟨f, t, hflow, htask, rfl⟩
    · cases h

/-! ## §4 Histories -/

/-- The records after some commands on the flows of a catalog, one after the other. -/
def after (c : Catalog) (asks : List Ask) : Overrides :=
  asks.foldl (fun o a => (o.apply c a.flowId a.command).1) empty

theorem after_concat (c : Catalog) (asks : List Ask) (a : Ask) :
    after c (asks ++ [a]) = ((after c asks).apply c a.flowId a.command).1 := by
  rw [after, List.foldl_append]
  rfl

/-- A command changes in the record of a task what it has a word for. -/
theorem record_apply {α : Type} {read : TaskOverride → Option α}
    {word : Command → Option (Option α)}
    (hread : ∀ command r, read (Command.changed r command) = (word command).getD (read r))
    (c : Catalog) (o : Overrides) (a : Ask) (key : TaskKey) :
    read ((o.apply c a.flowId a.command).1.record key) =
      (said c key word a).getD (read (o.record key)) := by
  have happlied := applied c o a
  generalize o.apply c a.flowId a.command = result at happlied
  cases happlied with
  | granted hgranted hflow hrecord =>
    rw [said, hgranted, Option.bind_some, hrecord]
    split
    · exact hread ..
    · rfl
  | refused hgranted => rw [said, hgranted, Option.bind_none, Option.getD_none]

/-- What the record of a task holds after a history is the last word on it. -/
theorem record_after {α : Type} (read : TaskOverride → Option α)
    {word : Command → Option (Option α)} (hblank : read {} = none)
    (hread : ∀ command r, read (Command.changed r command) = (word command).getD (read r))
    (c : Catalog) (asks : List Ask) (key : TaskKey) :
    read ((after c asks).record key) = lastWord c key word asks := by
  -- over the history from its end: the last command has the last word, or leaves it as it was
  induction asks using List.reverseRecOn with
  | nil => exact hblank
  | append_singleton asks a ih => rw [after_concat, record_apply hread, ih, lastWord_concat]

/-- What is effective is read off the record of the task alone. -/
theorem routeOf_congr {o p : Overrides} {flowId : String} {t : Task}
    (h : p.record (flowId, t.name) = o.record (flowId, t.name)) :
    p.routeOf flowId t = o.routeOf flowId t := by
  rw [routeOf, routeOf, h]

theorem monitorOf_congr {o p : Overrides} {flowId : String} {t : Task}
    (h : p.record (flowId, t.name) = o.record (flowId, t.name)) (position : Position) :
    p.monitorOf flowId t position = o.monitorOf flowId t position := by
  rw [monitorOf, monitorOf, h]

/-- After any history of commands, the route of a task is the last one said of it or else the
declared one, and so is its monitor at a position, of which there is none if it was cleared last.
A command that comes next succeeds exactly if it is granted; a reassignment answers with the route
that was effective until then; a command that fails changes nothing; and no command changes what
is effective for a task that it is not about. -/
theorem after_lastWord (c : Catalog) (asks : List Ask) :
    (∀ flowId t, (after c asks).routeOf flowId t =
      (lastWord c (flowId, t.name) Command.routeWord asks).getD t.route) ∧
    (∀ flowId t position, (after c asks).monitorOf flowId t position =
      match lastWord c (flowId, t.name) (Command.monitorWord position) asks with
      | some (.set route) => some route
      | some .cleared => none
      | none => t.monitor position) ∧
    ∀ a,
      let answer := ((after c asks).apply c a.flowId a.command).2
      let next := after c (asks ++ [a])
      ((∃ reply, answer = .ok reply) ↔ ∃ f, granted? c a = some f) ∧
      (∀ task route reply, a.command = .reassign task route → answer = .ok reply →
        ∃ f t, c.flow a.flowId = .ok f ∧ f.task task = .ok t ∧
          reply = .route ((after c asks).routeOf f.id t)) ∧
      (∀ e, answer = .error e → next = after c asks ∧ Refused c a e) ∧
      ∀ flowId t,
        (∀ f, c.flow a.flowId = .ok f → a.command.covers f.id (flowId, t.name) = false) →
        next.routeOf flowId t = (after c asks).routeOf flowId t ∧
          ∀ position, next.monitorOf flowId t position =
            (after c asks).monitorOf flowId t position := by
  refine ⟨?_, ?_, ?_⟩
  · intro flowId t
    rw [routeOf, record_after TaskOverride.route rfl changed_route]
  · intro flowId t position
    have hblank : TaskOverride.monitor {} position = none := by cases position <;> rfl
    have hlast := record_after (fun r => r.monitor position) hblank
      (fun command r => changed_monitor command r position) c asks (flowId, t.name)
    have hmonitor : (after c asks).monitorOf flowId t position =
        match ((after c asks).record (flowId, t.name)).monitor position with
        | some (.set route) => some route
        | some .cleared => none
        | none => t.monitor position := rfl
    rw [hmonitor, hlast]
  · rintro a answer next
    have hnext : next = ((after c asks).apply c a.flowId a.command).1 := after_concat c asks a
    refine ⟨?_, ?_, ?_, ?_⟩
    · exact (applied c (after c asks) a).succeeds_iff
    · intro task route reply hcommand hanswer
      have hreassigned :
          ((after c asks).apply c a.flowId (.reassign task route)).2 = .ok reply := by
        rw [← hcommand]
        exact hanswer
      exact apply_reassign hreassigned
    · intro e hanswer
      rw [hnext]
      exact (applied c (after c asks) a).unchanged_of_error hanswer
    · intro flowId t hother
      have hrecord := (applied c (after c asks) a).record_of_not_covers hother
      rw [← hnext] at hrecord
      exact ⟨routeOf_congr hrecord, monitorOf_congr hrecord⟩

end TaskFlow.Overrides
