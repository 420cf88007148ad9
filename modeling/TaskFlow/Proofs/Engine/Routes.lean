/-
TaskFlow.Proofs.Engine.Routes — what is called is a service name.

The route of a call comes from a declaration or from a record that lies over it, and each is checked
where it comes in: the declarations when the flow is loaded, the records when a command is granted.
`Overrides.Named` carries the second check over any history of commands; a run looks its routes up
in records that some history has left, and nowhere else.

  §1 Records — `Named`, kept by every command.
  §2 Look-up — what is effective for a task is a service name.
  §3 Hosts   — `Reaches`: the states that calls bring a host to; local functions keep the records.
  §4 Runs    — every call of a run.
-/
import TaskFlow.Local.Functions
import TaskFlow.Proofs.Engine.Monitors
import TaskFlow.Proofs.Overrides.LastWord

namespace TaskFlow

/-! ## §1 Records -/

/-- A record replaces routes and monitors by service names only. -/
structure TaskOverride.Named (r : TaskOverride) : Prop where
  route : ∀ service, r.route = some service → isServiceName service = true
  monitor : ∀ position service, r.monitor position = some (.set service) →
    isServiceName service = true

namespace Overrides

/-- So do all records. -/
def Named (o : Overrides) : Prop := ∀ key, (o.record key).Named

theorem named_empty : empty.Named := by
  intro key
  refine ⟨?_, ?_⟩
  · intro service hservice
    cases hservice
  · intro position service hservice
    cases position <;> cases hservice

/-- The route that a granted command brings in is a service name. -/
theorem isServiceName_of_granted {c : Catalog} {a : Ask} {f : Flow} (h : granted? c a = some f) :
    a.command.route?.all isServiceName = true := by
  unfold granted? at h
  split at h
  · split at h
    · next hchecks => exact (Bool.and_eq_true_iff.mp hchecks).2
    · cases h
  · cases h

/-- A command that brings in no other route keeps a record named. -/
theorem named_changed {command : Command} (hvalid : command.route?.all isServiceName = true)
    {r : TaskOverride} (hr : r.Named) : (command.changed r).Named := by
  refine ⟨?_, ?_⟩
  · intro service hservice
    rw [changed_route] at hservice
    cases command with
    | reassign task replacement =>
      obtain rfl : replacement = service := Option.some.inj hservice
      exact hvalid
    | resetTask | reset => cases hservice
    | route | setMonitor | clearMonitors => exact hr.route service hservice
  · intro position service hservice
    rw [changed_monitor] at hservice
    cases command with
    | setMonitor task replacement place =>
      by_cases hplace : place = position
      · rw [Command.monitorWord, if_pos hplace] at hservice
        cases hservice
        exact hvalid
      · rw [Command.monitorWord, if_neg hplace] at hservice
        exact hr.monitor position service hservice
    | clearMonitors | resetTask | reset => cases hservice
    | route | reassign => exact hr.monitor position service hservice

/-- A command keeps all records named, whether it is granted or not. -/
theorem Applied.named {c : Catalog} {o : Overrides} {a : Ask}
    {result : Overrides × Except Error Reply} (h : Applied c o a result) (ho : o.Named) :
    result.1.Named := by
  cases h with
  | granted hgranted _ hrecord =>
    intro key
    rw [hrecord]
    split
    · exact named_changed (isServiceName_of_granted hgranted) (ho key)
    · exact ho key
  | refused => exact ho

/-- Whatever was asked for, the records are named. -/
theorem named_after (c : Catalog) (asks : List Ask) : (after c asks).Named := by
  induction asks using List.reverseRecOn with
  | nil => exact named_empty
  | append_singleton asks a ih =>
    rw [after_concat]
    exact (applied c (after c asks) a).named ih

/-! ## §2 Look-up -/

section

variable {o : Overrides} {f : Flow} {t : Task}

theorem Named.routeOf (h : o.Named) (ht : t ∈ f.tasks) (flowId : String) :
    isServiceName (o.routeOf flowId t) = true := by
  unfold Overrides.routeOf
  cases hroute : (o.record (flowId, t.name)).route with
  | none => exact (Flow.wellFormed_of_mem ht).route
  | some service => exact (h _).route service hroute

theorem Named.monitorOf (h : o.Named) (ht : t ∈ f.tasks) {flowId : String} {position : Position}
    {service : String} (hmonitor : o.monitorOf flowId t position = some service) :
    isServiceName service = true := by
  unfold Overrides.monitorOf at hmonitor
  split at hmonitor
  · next replacement hset =>
    obtain rfl : replacement = service := Option.some.inj hmonitor
    exact (h _).monitor position _ hset
  · cases hmonitor
  · have hdeclared : t.monitorBefore = some service ∨ t.monitorAfter = some service := by
      cases position with
      | before => exact Or.inl hmonitor
      | after => exact Or.inr hmonitor
    exact (Flow.wellFormed_of_mem ht).monitors service hdeclared

end

end Overrides

/-! ## §3 Hosts -/

variable {W : Type}

/-- The states that a host can come to by calls, answered or given up. -/
inductive Host.Reaches (host : Host W) (w : W) : W → Prop
  | here : Reaches host w w
  | answered {w' : W} (route : String) (request : Request) (limit : Nat) :
      Reaches host w w' → Reaches host w (host.dispatch w' route request limit).answered
  | abandoned {w' : W} (route : String) (request : Request) (limit : Nat) :
      Reaches host w w' → Reaches host w (host.dispatch w' route request limit).abandoned

theorem Host.Reaches.awaited {host : Host W} {w : W} (d : Delivery W)
    (h : host.Reaches w d.world) : host.Reaches w (d.awaited host).world := by
  unfold Delivery.awaited Call.await
  split
  · split
    · exact .answered _ _ _ h
    · exact .abandoned _ _ _ h
  · exact .abandoned _ _ _ h

/-- Calls that lead a host on are made in states that it reaches. -/
theorem Leads.reaches {host : Host W} {w w' w'' : W} {calls : List (Delivery W)}
    (h : Leads host w' calls w'') (hreaches : host.Reaches w w') :
    ∀ d ∈ calls, host.Reaches w d.world := by
  induction calls generalizing w' with
  | nil =>
    intro d hd
    cases hd
  | cons first rest ih =>
    obtain ⟨rfl, -, hrest⟩ := h
    intro d hd
    rcases List.mem_cons.mp hd with rfl | hd
    · exact hreaches
    · exact ih hrest hreaches.awaited d hd

/-- Local functions leave the records alone. -/
theorem Local.World.overrides_dispatch (w : Local.World) (route : String) (request : Request)
    (limit : Nat) :
    (w.dispatch route request limit).answered.overrides = w.overrides ∧
      (w.dispatch route request limit).abandoned.overrides = w.overrides := by
  unfold Local.World.dispatch
  split
  · exact ⟨rfl, rfl⟩
  · split
    · exact ⟨rfl, rfl⟩
    · split
      · exact ⟨rfl, rfl⟩
      · split
        · next behavior _ =>
          unfold Local.World.react
          cases behavior.reaction <;> exact ⟨rfl, rfl⟩
        · exact ⟨rfl, rfl⟩

theorem Local.World.overrides_of_reaches {w w' : Local.World}
    (h : Local.World.host.Reaches w w') : w'.overrides = w.overrides := by
  induction h with
  | here => rfl
  | @answered w' route request limit _ ih =>
    exact (w'.overrides_dispatch route request limit).1.trans ih
  | @abandoned w' route request limit _ ih =>
    exact (w'.overrides_dispatch route request limit).2.trans ih

/-! ## §4 Runs -/

/-- The route of a call is the one that is effective for the task, or for one of its monitors, in
the state of the host in which the call is made. -/
theorem Called.route {r : Run W} {v : Visit W} (h : Called r v) {d : Delivery W}
    (hd : d ∈ v.calls) :
    d.route = (r.engine.host.overrides d.world).routeOf r.flow.id v.task ∨
      ∃ position, (r.engine.host.overrides d.world).monitorOf r.flow.id v.task position =
        some d.route := by
  have hmonitor : ∀ {position world inst call}, Monitored r v.task position world inst call →
      d ∈ call.toList →
      ∃ position, (r.engine.host.overrides d.world).monitorOf r.flow.id v.task position =
        some d.route := by
    intro position world inst call hmonitored hcall
    have hcall := Option.mem_toList.mp hcall
    refine ⟨position, ?_⟩
    rw [hmonitored.world d hcall, ← hmonitored.route, Option.mem_def.mp hcall]
    rfl
  cases h with
  | undispatched calls monitored =>
    rw [calls] at hd
    exact Or.inr (hmonitor monitored hd)
  | unfinished calls monitored dispatched =>
    rw [calls, List.mem_append, List.mem_singleton] at hd
    rcases hd with hd | rfl
    · exact Or.inr (hmonitor monitored hd)
    · exact Or.inl dispatched.route
  | finished calls monitored dispatched _ _ _ _ reported =>
    rw [calls, List.mem_append, List.mem_cons] at hd
    rcases hd with hd | rfl | hd
    · exact Or.inr (hmonitor monitored hd)
    · exact Or.inl dispatched.route
    · exact Or.inr (hmonitor reported hd)

namespace Run

variable {r : Run W} {p : Progress W}

/-- A run calls service names only, if the records that its host can come to are named. -/
theorem Sane.named_calls (h : r.Sane p)
    (hnamed : ∀ w, r.engine.host.Reaches p.world w → (r.engine.host.overrides w).Named) (n : Nat) :
    ∀ d ∈ (r.visits n p).flatMap Visit.calls, isServiceName d.route = true := by
  have hreaches := (h.led_advance n).leads.reaches .here
  intro d hd
  have hrecords := hnamed d.world (hreaches d hd)
  obtain ⟨v, hv, hcall⟩ := List.mem_flatMap.mp hd
  obtain ⟨m, t, hready, -, rfl⟩ := h.mem_visits hv
  rcases hready.called.route hcall with hroute | ⟨position, hmonitor⟩
  · rw [hroute]
    exact hrecords.routeOf hready.mem _
  · exact hrecords.monitorOf hready.mem hmonitor

end Run

namespace Engine

open Run

/-- Whatever commands have been made on the flows of a catalog when a run starts, and whatever more
are made while it goes on: every route that it calls, for a task or for a monitor, is a service
name. -/
theorem run_calls_named (e : Engine W) (c : Catalog) {world : W}
    (hhistory : ∀ w, e.host.Reaches world w → ∃ asks, e.host.overrides w = Overrides.after c asks)
    (order : Order) (supply : Supply) (n : Nat) :
    ∀ d ∈ (e.run c order supply n world).deliveries, isServiceName d.route = true := by
  have hnamed : ∀ w, e.host.Reaches world w → (e.host.overrides w).Named := by
    intro w hw
    obtain ⟨asks, hasks⟩ := hhistory w hw
    rw [hasks]
    exact Overrides.named_after c asks
  unfold run
  cases c.flow order.flowId with
  | error cause =>
    intro d hd
    cases hd
  | ok flow =>
    obtain ⟨inst, hopened⟩ := exists_opened e flow order supply
    have hsane := hopened.sane world
    dsimp only
    rw [hopened.report n world]
    show ∀ d ∈ ((e.runOf flow supply).advance n _).deliveries, _
    rw [(hsane.led_advance n).deliveries]
    exact hsane.named_calls hnamed n

/-- The flow of an audit, loaded. -/
def auditCatalog : Catalog := ⟨[("audited", audited)]⟩

/-- Replacements for its tasks and monitors; two of the routes are no service names. -/
def replacements : List Overrides.Ask :=
  [⟨"audited", .reassign "collect" "spare.v2"⟩, ⟨"audited", .reassign "report" "worker"⟩,
    ⟨"audited", .setMonitor "report" "Watch.v1" .before⟩, ⟨"audited", .clearMonitors "collect"⟩,
    ⟨"audited", .setMonitor "collect" "watch.v1" .after⟩]

/-- Local functions for the declared route and for the replaced one, with the replacements made. -/
def replacing : Local.World where
  table := [("no.op", .passThrough), ("spare.v2", .passThrough), ("worker.v1", .passThrough)]
  overrides := Overrides.after auditCatalog replacements

/-- An engine with local functions. -/
def localEngine : Engine Local.World where
  plugins := .empty
  settings := {}
  host := Local.World.host
  epoch := ⟨0, 0⟩

/-- A run with replaced routes calls a replaced and a declared one, and a monitor of either kind. -/
theorem run_calls_named_replaced :
    let report := localEngine.run auditCatalog auditOrder ⟨0⟩ 2 replacing
    report.deliveries.map (·.route) = ["spare.v2", "watch.v1", "worker.v1", "audit.v1"] ∧
      (∀ w, Local.World.host.Reaches replacing w →
        ∃ asks, w.overrides = Overrides.after auditCatalog asks) ∧
      ∀ d ∈ report.deliveries, isServiceName d.route = true := by
  have hhistory : ∀ w, Local.World.host.Reaches replacing w →
      ∃ asks, w.overrides = Overrides.after auditCatalog asks := by
    intro w hw
    exact ⟨replacements, Local.World.overrides_of_reaches hw⟩
  exact ⟨by decide +kernel, hhistory,
    run_calls_named localEngine auditCatalog hhistory auditOrder ⟨0⟩ 2⟩

end Engine

end TaskFlow
