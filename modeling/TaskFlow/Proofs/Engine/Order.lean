/-
TaskFlow.Proofs.Engine.Order — every run keeps the order of keys.

An object stands for a map only while its keys ascend (`Json.Ordered`), and what is known of reading
and writing the state is known of ordered states. A run comes to no others. If the payload is
ordered, the plugins keep the order of keys and functions answer ordered requests by ordered
responses, then at every moment the state is ordered, and so is all that has been sent and received
(`InOrder`). A host may answer so in some of its states only, and then has to stay in them: `Good`
says which they are.

  §1 Messages — ordered requests and responses.
  §2 Hosts    — `Host.KeepsOrder`, and a call to such a host.
  §3 Phases   — the invariant `InOrder`, through the phases of a task.
  §4 Runs     — all of it, of every run.
-/
import TaskFlow.Proofs.Engine.Slots
import TaskFlow.Proofs.Mapping.Order

namespace TaskFlow

open TaskFlow.Mapping

variable {W : Type} {Good : W → Prop}

/-! ## §1 Messages -/

theorem ordered_headersJson {headers : Dictionary String} (h : Dictionary.Sorted headers) :
    (headersJson headers).Ordered :=
  .obj (List.pairwise_map.mpr h) (List.forall_mem_map.mpr fun _ _ => .str _)

/-- The body and the headers of the request are ordered. -/
structure Request.Ordered (request : Request) : Prop where
  body : request.body.Ordered
  headers : Dictionary.Sorted request.headers

/-- The body and the headers of the response are ordered. -/
structure Response.Ordered (response : Response) : Prop where
  body : response.body.Ordered
  headers : Dictionary.Sorted response.headers

theorem Response.ordered_ok {body : Json} (h : body.Ordered) : (Response.ok body).Ordered :=
  ⟨h, .nil⟩

theorem Request.Ordered.toJson {request : Request} (h : request.Ordered) :
    request.toJson.Ordered := by
  refine Json.ordered_ofFields ?_
  simp only [List.forall_mem_cons]
  exact ⟨h.body, ordered_headersJson h.headers, .str _, .str _, .str _, .str _,
    fun _ hmem => absurd hmem List.not_mem_nil⟩

/-- The call has sent an ordered request and received, if anything, an ordered response. -/
structure Delivery.Ordered (d : Delivery W) : Prop where
  request : d.request.Ordered
  response : ∀ response, d.answer = some (.ok response) → response.Ordered

/-! ## §2 Hosts -/

/-- Asked in a good state, the host answers ordered requests by ordered responses, and the call
leaves it in a good state. -/
structure Host.KeepsOrder (host : Host W) (Good : W → Prop) : Prop where
  answer : ∀ {w request}, Good w → request.Ordered → ∀ route limit response,
    (host.dispatch w route request limit).answer = .ok response → response.Ordered
  answered : ∀ {w request}, Good w → request.Ordered → ∀ route limit,
    Good (host.dispatch w route request limit).answered
  abandoned : ∀ {w request}, Good w → request.Ordered → ∀ route limit,
    Good (host.dispatch w route request limit).abandoned

/-- The plugins and the functions of the engine keep the order of keys. -/
structure Engine.KeepsOrder (e : Engine W) (Good : W → Prop) : Prop where
  plugins : e.plugins.KeepsOrder
  host : e.host.KeepsOrder Good

/-- Whoever waits for a call meets the host as the answer leaves it, with that answer, or as the
caller leaves it. -/
theorem Call.await_cases (call : Call W) (limit : Nat) :
    (call.await limit).world = call.answered ∧ (call.await limit).answer = some call.answer ∨
      (call.await limit).world = call.abandoned ∧ (call.await limit).answer = none := by
  unfold await
  split
  · split
    · exact Or.inl ⟨rfl, rfl⟩
    · exact Or.inr ⟨rfl, rfl⟩
  · exact Or.inr ⟨rfl, rfl⟩

/-- The state is ordered, the host is good, and so were all calls so far. -/
structure Progress.InOrder (Good : W → Prop) (p : Progress W) : Prop where
  state : p.inst.state.Ordered
  world : Good p.world
  deliveries : ∀ d ∈ p.deliveries, d.Ordered

namespace Progress.InOrder

variable {r : Run W} {p : Progress W}

theorem withState (h : p.InOrder Good) {state : Store} (hstate : state.Ordered) :
    (p.withState state).InOrder Good :=
  ⟨hstate, h.world, h.deliveries⟩

theorem withStatus (h : p.InOrder Good) (status : Status) : (p.withStatus status).InOrder Good :=
  ⟨h.state, h.world, h.deliveries⟩

/-- A call with an ordered request brings an ordered response, if it brings one, and a good host. -/
theorem called (h : p.InOrder Good) (hhost : r.engine.host.KeepsOrder Good)
    {request : Request} (hrequest : request.Ordered) (purpose : Purpose) (route : String)
    (limit : Nat) :
    (r.call purpose route request limit p).1.Ordered ∧
      Good (r.call purpose route request limit p).2 := by
  rcases (r.engine.host.dispatch p.world route request limit).await_cases limit with
    ⟨hworld, hanswer⟩ | ⟨hworld, hanswer⟩
  · refine ⟨⟨hrequest, ?_⟩, ?_⟩
    · intro response hresponse
      exact hhost.answer h.world hrequest route limit response
        (Option.some.inj (hanswer.symm.trans hresponse))
    · show Good (Call.await _ limit).world
      rw [hworld]
      exact hhost.answered h.world hrequest route limit
  · refine ⟨⟨hrequest, ?_⟩, ?_⟩
    · intro response hresponse
      cases hanswer.symm.trans hresponse
    · show Good (Call.await _ limit).world
      rw [hworld]
      exact hhost.abandoned h.world hrequest route limit

theorem after (h : p.InOrder Good) {d : Delivery W} {world : W} (hd : d.Ordered)
    (hworld : Good world) : (p.after d world).InOrder Good := by
  refine ⟨h.state, hworld, ?_⟩
  intro e he
  rcases List.mem_append.mp he with he | he
  · exact h.deliveries e he
  · exact List.mem_singleton.mp he ▸ hd

end Progress.InOrder

/-! ## §3 Phases -/

theorem Store.Ordered.keeping {s : Store} (h : s.Ordered) {response : Response}
    (hresponse : response.Ordered) : (s.keeping response).Ordered := by
  unfold Store.keeping
  split
  · next fields hroot =>
    have hfields : Json.Ordered (.obj fields) := hroot ▸ h
    have hresult := hfields.insert "result" hresponse.body
    have hstatus := hresult.insert "status" (Json.ordered_ofNat response.status)
    exact hstatus.insert "header" (ordered_headersJson hresponse.headers)
  · exact h

namespace Run

variable {r : Run W} {t : Task} {p q : Progress W} {draft : Draft} {response : Response}

theorem ordered_snapshot {i : Instance} (h : i.state.Ordered) (t : Task) (position : Position) :
    (r.snapshot i t position).Ordered := by
  refine Json.ordered_ofFields ?_
  simp only [List.forall_mem_cons]
  exact ⟨.str _, .str _, .str _, h, fun _ hmem => absurd hmem List.not_mem_nil⟩

theorem inOrder_told (hr : r.engine.KeepsOrder Good) (h : p.InOrder Good) (t : Task)
    (position : Position) : (r.told t position p).InOrder Good := by
  unfold told
  split
  · exact h
  · have hrequest : (r.request p.inst t (r.snapshot p.inst t position) []).Ordered :=
      ⟨ordered_snapshot h.state t position, .nil⟩
    obtain ⟨hd, hworld⟩ := h.called hr.host hrequest _ _ _
    exact h.after hd hworld

theorem inOrder_briefed (hr : r.engine.KeepsOrder Good) (h : p.InOrder Good) (t : Task) :
    (r.briefed t p).InOrder Good := inOrder_told hr h t .before

theorem ordered_inputOutcome (hr : r.engine.KeepsOrder Good) (h : p.InOrder Good)
    (lines : List String) : (r.inputOutcome lines p).Ordered Draft.Ordered :=
  ordered_mapInput hr.plugins _ lines h.state

theorem inOrder_mapped (hr : r.engine.KeepsOrder Good) (h : p.InOrder Good) (t : Task) :
    (r.mapped t p).InOrder Good := by
  have hbriefed := inOrder_briefed hr h t
  exact hbriefed.withState (ordered_inputOutcome hr hbriefed t.input).state

/-- The request of a task is ordered because its draft is. -/
theorem ordered_taskCall (hr : r.engine.KeepsOrder Good) (h : p.InOrder Good)
    {answer : Option (Except Error Response)} (hanswered : r.Answered t p draft answer) :
    (r.taskCall t draft (r.mapped t p)).1.Ordered ∧
      Good (r.taskCall t draft (r.mapped t p)).2 := by
  have hdraft : draft.Ordered :=
    (ordered_inputOutcome hr (inOrder_briefed hr h t) t.input).made draft hanswered.drafted
  have hrequest : (r.request (r.mapped t p).inst t draft.body.root draft.headers).Ordered :=
    ⟨hdraft.body, hdraft.headers⟩
  exact (inOrder_mapped hr h t).called hr.host hrequest _ _ _

theorem inOrder_dispatched (hr : r.engine.KeepsOrder Good) (h : p.InOrder Good)
    {answer : Option (Except Error Response)} (hanswered : r.Answered t p draft answer) :
    (r.dispatched t draft p).InOrder Good := by
  obtain ⟨hd, hworld⟩ := ordered_taskCall hr h hanswered
  exact ((inOrder_mapped hr h t).withStatus _).after hd hworld

theorem inOrder_answered (hr : r.engine.KeepsOrder Good) (h : p.InOrder Good)
    (hanswered : r.Answered t p draft (some (.ok response))) :
    (r.answered t draft response p).InOrder Good := by
  have hresponse : response.Ordered :=
    (ordered_taskCall hr h hanswered).1.response response hanswered.answer_eq
  have hresumed := (inOrder_dispatched hr h hanswered).withStatus (.executing t.name)
  exact hresumed.withState ((inOrder_mapped hr h t).state.keeping hresponse)

theorem ordered_outputOutcome (hr : r.engine.KeepsOrder Good) (h : p.InOrder Good) (t : Task)
    (lines : List String) : (r.outputOutcome t lines p).state.Ordered :=
  (ordered_mapOutput hr.plugins _ t.decides lines h.state).state

theorem inOrder_digested (hr : r.engine.KeepsOrder Good) (h : p.InOrder Good)
    (hanswered : r.Answered t p draft (some (.ok response))) :
    (r.digested t draft response p).InOrder Good := by
  have hanswer := inOrder_answered hr h hanswered
  exact hanswer.withState (ordered_outputOutcome hr hanswer t t.output)

/-- However the phases of a task end, everything is in order. -/
theorem Served.inOrder {result : Except Error (Option Json)} (hserved : r.Served t p result q)
    (hr : r.engine.KeepsOrder Good) (h : p.InOrder Good) : q.InOrder Good := by
  cases hserved with
  | unmapped | expired => exact inOrder_mapped hr h t
  | unanswered hanswered | rejected hanswered => exact inOrder_dispatched hr h hanswered
  | refused hanswered => exact (inOrder_dispatched hr h hanswered).withStatus _
  | undigested hanswered => exact inOrder_digested hr h hanswered
  | done hanswered => exact inOrder_told hr (inOrder_digested hr h hanswered) t .after

/-- At every point of its phases, everything is in order. -/
theorem Within.inOrder {heard : List (Delivery W)} (hwithin : r.Within t p q heard)
    (hr : r.engine.KeepsOrder Good) (h : p.InOrder Good) : q.InOrder Good := by
  cases hwithin with
  | begun => exact h
  | briefed => exact inOrder_briefed hr h t
  | reading k =>
    have hbriefed := inOrder_briefed hr h t
    exact hbriefed.withState (ordered_inputOutcome hr hbriefed _).state
  | suspended => exact (inOrder_mapped hr h t).withStatus _
  | returned hanswered => exact inOrder_dispatched hr h hanswered
  | resumed hanswered => exact (inOrder_dispatched hr h hanswered).withStatus _
  | stored hanswered => exact inOrder_answered hr h hanswered
  | writing k hanswered =>
    have hanswer := inOrder_answered hr h hanswered
    exact hanswer.withState (ordered_outputOutcome hr hanswer t _)
  | left hserved => exact hserved.inOrder hr h

/-! ## §4 Runs -/

theorem inOrder_begun (h : p.InOrder Good) (name : String) : (p.begun name).InOrder Good :=
  ⟨h.state, h.world, h.deliveries⟩

theorem Stepped.inOrder {made : Option (Visit W)} (hstep : r.Stepped p made q)
    (hr : r.engine.KeepsOrder Good) (h : p.InOrder Good) : q.InOrder Good := by
  cases hstep with
  | ended => exact h
  | @cancelled t =>
    obtain ⟨status, stage, heq⟩ := cancelledBefore_eq (r := r) t.name p
    rw [heq]
    exact ⟨h.state, h.world, h.deliveries⟩
  | @visited t hready =>
    obtain ⟨status, stage, heq⟩ := settled_eq (r := r) (r.visit t p)
    have hleft := hready.served.inOrder hr (inOrder_begun h t.name)
    rw [heq]
    exact ⟨hleft.state, hleft.world, hleft.deliveries⟩

theorem Sane.inOrder_advance (hsane : r.Sane p) (hr : r.engine.KeepsOrder Good)
    (h : p.InOrder Good) (n : Nat) : (r.advance n p).InOrder Good := by
  induction n generalizing p with
  | zero => exact h
  | succ n ih =>
    rw [advance_succ]
    exact ih (hsane.stepped.sane hsane) (hsane.stepped.inOrder hr h)

end Run

namespace Engine

open Run

/-- A new instance holds its payload and its own names, put into an empty state. -/
theorem ordered_create {id flowId correlationId : String} {payload : Json} {inst : Instance}
    (hpayload : payload.Ordered) (h : Instance.create id flowId correlationId payload = .ok inst) :
    inst.state.Ordered := by
  unfold Instance.create at h
  split at h
  · next state hseed =>
    cases h
    refine Store.ordered_ofPaths ?_ hseed
    simp only [List.forall_mem_cons]
    exact ⟨hpayload, .str _, .str _, .str _, fun _ hmem => absurd hmem List.not_mem_nil⟩
  · cases h

section

variable {e : Engine W} {order : Order} {world : W}

theorem Opened.inOrder_start {flow : Flow} {supply : Supply} {inst : Instance}
    (h : Opened e flow order supply inst) (hpayload : order.payload.Ordered) (hworld : Good world) :
    ((e.runOf flow supply).start inst world).InOrder Good := by
  exact ⟨ordered_create hpayload h.instanceOf_eq, hworld,
    fun _ hmem => absurd hmem List.not_mem_nil⟩

/-- An ordered payload, plugins and functions that keep the order: at every moment of the run the
state is ordered, and every call so far has sent an ordered request and received no other response
than an ordered one. -/
theorem runFlow_ordered (he : e.KeepsOrder Good) (hpayload : order.payload.Ordered)
    (hworld : Good world) (flow : Flow) (supply : Supply) :
    ∃ inst, instanceOf flow order supply = .ok inst ∧
      ∀ q heard,
        Moment (e.runOf flow supply) ((e.runOf flow supply).start inst world) q heard →
          q.inst.state.Ordered ∧ ∀ d ∈ q.deliveries, d.Ordered := by
  obtain ⟨inst, hopened⟩ := exists_opened e flow order supply
  refine ⟨inst, hopened.instanceOf_eq, ?_⟩
  intro q heard hmoment
  have hsane := hopened.sane world
  have hstart := hopened.inOrder_start hpayload hworld
  have hq : q.InOrder Good := by
    cases hmoment with
    | between n => exact hsane.inOrder_advance he hstart n
    | within hv hwithin =>
      obtain ⟨m, t, hready, -, rfl⟩ := hsane.mem_visits hv
      exact hwithin.inOrder he (inOrder_begun (hsane.inOrder_advance he hstart m) t.name)
  exact ⟨hq.state, hq.deliveries⟩

/-- What a run has sent, received and made of the state is ordered. -/
structure OrderedReport (report : Report W) : Prop where
  deliveries : ∀ d ∈ report.deliveries, d.Ordered
  outcome : ∀ outcome, report.ending = .completed outcome →
    outcome.state.Ordered ∧ outcome.output.Ordered

theorem orderedReport_failed (failure : FlowFailure) (world : W) :
    OrderedReport ⟨.failed failure, [], world⟩ := by
  refine ⟨fun _ hmem => absurd hmem List.not_mem_nil, ?_⟩
  intro outcome hcompleted
  cases hcompleted

/-- The report on a run over a catalog, whichever flow it asks for. -/
theorem run_ordered (he : e.KeepsOrder Good) (hpayload : order.payload.Ordered)
    (hworld : Good world) (catalog : Catalog) (supply : Supply) (n : Nat) :
    OrderedReport (e.run catalog order supply n world) := by
  unfold run
  split
  · exact orderedReport_failed _ _
  · next flow _ =>
    obtain ⟨inst, hopened⟩ := exists_opened e flow order supply
    have hlast := (hopened.sane world).inOrder_advance he (hopened.inOrder_start hpayload hworld) n
    rw [hopened.report]
    refine ⟨hlast.deliveries, ?_⟩
    intro outcome hcompleted
    obtain ⟨-, rfl⟩ := ending_completed_iff.mp hcompleted
    exact ⟨hlast.state, Store.ordered_get? hlast.state "output"⟩

end

end Engine

end TaskFlow
