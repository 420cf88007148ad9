/-
TaskFlow.Proofs.CommandLine.Order — the program makes ordered states of any payload.

Nothing has to be assumed of a run that the program makes. Its payload has been read from a text,
and a text is never read as anything but an ordered value. Its plugins are the built-in ones, which
keep the order of keys. And its only function gives back what it is sent. A rehearsal may have
scripted functions too; the responses that are written down in them are what it has to answer for.

  §1 Functions  — a world whose scripts respond in order keeps the order of keys.
  §2 Rehearsals — the reports of a rehearsal in such a world.
  §3 Program    — the report of the program.
-/
import TaskFlow.CommandLine.Program
import TaskFlow.Proofs.Engine.Order

namespace TaskFlow

/-! ## §1 Functions -/

namespace Local

/-- The responses that are written down in scripts are ordered. -/
def World.Good (w : World) : Prop :=
  ∀ route script, (route, .scripted script) ∈ w.table → ∀ behavior ∈ script, ∀ response,
    behavior.reaction = .respond response → response.Ordered

namespace World

variable {w : World} {request : Request}

theorem good_initial (cancellable cancelled : Bool) :
    Good { cancellable, cancelled } := by
  intro route script hmem
  cases List.mem_singleton.mp hmem

/-- A behavior answers with what the request brings, or with the response written down. -/
theorem ordered_react (hrequest : request.Ordered) {route : String} {behavior : Behavior}
    (hbehavior : ∀ response, behavior.reaction = .respond response → response.Ordered)
    {response : Response} (h : (w.react route request behavior).answer = .ok response) :
    response.Ordered := by
  unfold react at h
  cases hreaction : behavior.reaction with
  | echo | cancel =>
    rw [hreaction] at h
    exact Except.ok.inj h ▸ Response.ordered_ok hrequest.body
  | showRequest =>
    rw [hreaction] at h
    exact Except.ok.inj h ▸ Response.ordered_ok hrequest.toJson
  | respond written =>
    rw [hreaction] at h
    exact Except.ok.inj h ▸ hbehavior written hreaction
  | hang =>
    rw [hreaction] at h
    exact Except.ok.inj h ▸ Response.ordered_ok .null
  | fail | crash =>
    rw [hreaction] at h
    cases h

/-- A call may change the counts and the cancellation, but not the functions. -/
theorem table_react (w : World) (route : String) (request : Request) (behavior : Behavior) :
    (w.react route request behavior).answered.table = w.table ∧
      (w.react route request behavior).abandoned.table = w.table := by
  unfold react
  cases behavior.reaction <;> exact ⟨rfl, rfl⟩

theorem table_dispatch (w : World) (route : String) (request : Request) (limit : Nat) :
    (w.dispatch route request limit).answered.table = w.table ∧
      (w.dispatch route request limit).abandoned.table = w.table := by
  unfold dispatch
  dsimp only
  split
  · exact ⟨rfl, rfl⟩
  · split
    · exact ⟨rfl, rfl⟩
    · split
      · exact ⟨rfl, rfl⟩
      · split
        · exact table_react ..
        · exact ⟨rfl, rfl⟩

theorem mem_of_behaviorAt {script : Script} {count : Nat} {behavior : Behavior}
    (h : behaviorAt script count = some behavior) : behavior ∈ script :=
  List.mem_of_getElem? h

theorem ordered_dispatch (hw : w.Good) (hrequest : request.Ordered) (route : String) (limit : Nat)
    (response : Response) (h : (w.dispatch route request limit).answer = .ok response) :
    response.Ordered := by
  unfold dispatch at h
  dsimp only at h
  split at h
  · cases h
  · next function hfunction =>
    split at h
    · exact Except.ok.inj h ▸ Response.ordered_ok .null
    · split at h
      · exact Except.ok.inj h ▸ ⟨hrequest.body, hrequest.headers⟩
      · next script =>
        split at h
        · next behavior hbehavior =>
          have hresponds := hw route script (Dictionary.mem_of_get? hfunction) behavior
            (mem_of_behaviorAt hbehavior)
          exact ordered_react hrequest hresponds h
        · exact Except.ok.inj h ▸ Response.ordered_ok .null

/-- Local functions keep the order of keys. -/
theorem keepsOrder_host : host.KeepsOrder Good := by
  refine ⟨fun hw hrequest => ordered_dispatch hw hrequest, ?_, ?_⟩
  · intro w request hw _ route limit
    have htable := (table_dispatch w route request limit).1
    intro name script hmem
    exact hw name script (htable ▸ hmem)
  · intro w request hw _ route limit
    have htable := (table_dispatch w route request limit).2
    intro name script hmem
    exact hw name script (htable ▸ hmem)

end World

/-! ## §2 Rehearsals -/

/-- With plugins and scripts that keep the order, a rehearsal reports nothing out of order. -/
theorem Rehearsal.report_ordered {r : Rehearsal} (hplugins : r.plugins.KeepsOrder)
    (hworld : r.world.Good) {order : Engine.Order} (hpayload : order.payload.Ordered)
    (cancellation : Cancellation) : Engine.OrderedReport (r.report order cancellation) := by
  have hengine : r.engine.KeepsOrder World.Good := ⟨hplugins, World.keepsOrder_host⟩
  have hstart : World.Good
      { r.world with cancellable := cancellation.possible, cancelled := cancellation.atOnce } :=
    hworld
  exact Engine.run_ordered hengine hpayload hstart ..

end Local

/-! ## §3 The program -/

namespace CommandLine

/-- Whatever flows the program has loaded and whatever payload it has read: its run sends and
receives ordered values only, and the state and the output that it ends with are ordered. -/
theorem runFlow_ordered (s : Surroundings) (catalog : Catalog) (o : Options) {payload : Json}
    (h : Json.read? o.payload = some payload) :
    Engine.OrderedReport (runFlow s catalog o payload) :=
  Local.Rehearsal.report_ordered Plugin.Registry.keepsOrder_builtin
    (Local.World.good_initial false false) (Json.ordered_of_read? h) {}

end CommandLine

end TaskFlow
