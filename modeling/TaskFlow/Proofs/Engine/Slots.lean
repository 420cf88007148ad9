/-
TaskFlow.Proofs.Engine.Slots — what the state of a run is made of.

The root of the state has six slots. The payload and the response slots are written by the engine
alone; mapping lines, whatever they expand to, reach below `model` and `output` and no further.

  §1 Slots     — `Slotted`, and what keeps it.
  §2 Responses — `latest`: the response that the slots hold.
  §3 Moments   — every point of a run, between its steps and within them.
  §4 Runs      — the state is slotted at every moment.
-/
import TaskFlow.Proofs.Engine.Calls

namespace TaskFlow

open TaskFlow.Mapping

variable {W : Type}

/-! ## §1 Slots -/

/-- The keys that the root of a state may have. -/
def slotNames : List String := ["input", "model", "result", "status", "header", "output"]

/-- The fields of a state: the payload as it came, the model, perhaps an output, and the response
taken last, if any. -/
structure Slots (payload : Json) (taken : Option Response) (fields : Dictionary Json) : Prop where
  keys : ∀ key ∈ Dictionary.keys fields, key ∈ slotNames
  input : Dictionary.get? "input" fields = some payload
  model : ∃ inner, Dictionary.get? "model" fields = some (.obj inner)
  output : ∀ v, Dictionary.get? "output" fields = some v → ∃ inner, v = .obj inner
  result : Dictionary.get? "result" fields = taken.map (·.body)
  status : Dictionary.get? "status" fields = taken.map fun response => .ofNat response.status
  header : Dictionary.get? "header" fields = taken.map fun response => headersJson response.headers

/-- The root of a state is an object with these slots. -/
def Slotted (payload : Json) (taken : Option Response) (s : Store) : Prop :=
  ∃ fields, s.root = .obj fields ∧ Slots payload taken fields

variable {payload : Json} {taken : Option Response}

/-- An insertion under a slot adds no other key. -/
theorem keys_insert {fields : Dictionary Json}
    (h : ∀ key ∈ Dictionary.keys fields, key ∈ slotNames) {name : String} (hname : name ∈ slotNames) (value : Json) :
    ∀ key ∈ Dictionary.keys (Dictionary.insert name value fields), key ∈ slotNames := by
  intro key hkey
  obtain ⟨entry, hentry, rfl⟩ := List.mem_map.mp hkey
  rcases Dictionary.mem_insert hentry with rfl | hold
  · exact hname
  · exact h _ (List.mem_map_of_mem hold)

/-- An object in place of the model or the output keeps the slots. -/
theorem Slots.insert_space {fields : Dictionary Json} (h : Slots payload taken fields)
    {space : String} (hspace : space = "model" ∨ space = "output") (inner : Dictionary Json) :
    Slots payload taken (Dictionary.insert space (.obj inner) fields) := by
  have hname : space ∈ slotNames := by
    rcases hspace with rfl | rfl <;> decide
  have hother : ∀ key, key ≠ "model" → key ≠ "output" →
      Dictionary.get? key (Dictionary.insert space (.obj inner) fields) =
        Dictionary.get? key fields := by
    intro key hmodel houtput
    refine Dictionary.get?_insert_of_ne ?_ _ _
    rcases hspace with rfl | rfl
    · exact hmodel
    · exact houtput
  refine ⟨keys_insert h.keys hname _, ?_, ?_, ?_, ?_, ?_, ?_⟩
  · rw [hother _ (by decide) (by decide), h.input]
  · rcases hspace with rfl | rfl
    · exact ⟨inner, Dictionary.get?_insert_self ..⟩
    · rw [Dictionary.get?_insert_of_ne (by decide)]
      exact h.model
  · intro v hv
    rcases hspace with rfl | rfl
    · rw [Dictionary.get?_insert_of_ne (by decide)] at hv
      exact h.output v hv
    · rw [Dictionary.get?_insert_self] at hv
      exact ⟨inner, (Option.some.inj hv).symm⟩
  · rw [hother _ (by decide) (by decide), h.result]
  · rw [hother _ (by decide) (by decide), h.status]
  · rw [hother _ (by decide) (by decide), h.header]

/-- Edits of mapping lines keep the slots. -/
theorem Slotted.edited {s t : Store} (h : Slotted payload taken s) (hedited : s.Edited t) :
    Slotted payload taken t := by
  -- each edit finds the slots as the edits before it left them
  induction hedited with
  | unchanged => exact h
  | @model t path value hpath _ ih =>
    obtain ⟨fields, hroot, hslots⟩ := ih
    have hslot : ∀ v, Dictionary.get? "model" fields = some v → ∃ inner, v = .obj inner := by
      intro v hv
      obtain ⟨inner, hmodel⟩ := hslots.model
      exact ⟨inner, Option.some.inj (hv.symm.trans hmodel)⟩
    obtain ⟨inner, hset⟩ := Store.set_of_leadsInto hpath hroot hslot value
    rw [hset]
    exact ⟨_, rfl, hslots.insert_space (Or.inl rfl) inner⟩
  | @output t path value hpath _ ih =>
    obtain ⟨fields, hroot, hslots⟩ := ih
    obtain ⟨inner, hset⟩ := Store.set_of_leadsInto hpath hroot hslots.output value
    rw [hset]
    exact ⟨_, rfl, hslots.insert_space (Or.inr rfl) inner⟩
  | erased hpath _ ih =>
    obtain ⟨fields, hroot, hslots⟩ := ih
    rcases Store.erase_of_leadsInto hpath hroot with hsame | ⟨inner, hedit⟩
    · rw [hsame]
      exact ⟨fields, hroot, hslots⟩
    · rw [hedit]
      exact ⟨_, rfl, hslots.insert_space (Or.inl rfl) inner⟩

/-- Keeping a response fills the response slots, whatever they held. -/
theorem Slotted.keeping {s : Store} (h : Slotted payload taken s) (response : Response) :
    Slotted payload (some response) (s.keeping response) := by
  obtain ⟨fields, hroot, hslots⟩ := h
  obtain ⟨inner, hmodel⟩ := hslots.model
  have hresult : "result" ∈ slotNames := by decide
  have hstatus : "status" ∈ slotNames := by decide
  have hheader : "header" ∈ slotNames := by decide
  have hkeys := keys_insert (keys_insert (keys_insert hslots.keys hresult response.body) hstatus
    (.ofNat response.status)) hheader (headersJson response.headers)
  have hother : ∀ key, key ≠ "header" → key ≠ "status" → key ≠ "result" →
      Dictionary.get? key (Dictionary.insert "header" (headersJson response.headers)
        (Dictionary.insert "status" (.ofNat response.status)
          (Dictionary.insert "result" response.body fields))) = Dictionary.get? key fields := by
    intro key hheader hstatus hresult
    rw [Dictionary.get?_insert_of_ne hheader, Dictionary.get?_insert_of_ne hstatus,
      Dictionary.get?_insert_of_ne hresult]
  rw [Store.keeping, hroot]
  refine ⟨_, rfl, hkeys, ?_, ⟨inner, ?_⟩, ?_, ?_, ?_, Dictionary.get?_insert_self ..⟩
  · rw [hother _ (by decide) (by decide) (by decide), hslots.input]
  · rw [hother _ (by decide) (by decide) (by decide), hmodel]
  · intro v hv
    rw [hother _ (by decide) (by decide) (by decide)] at hv
    exact hslots.output v hv
  · rw [Dictionary.get?_insert_of_ne (by decide), Dictionary.get?_insert_of_ne (by decide),
      Dictionary.get?_insert_self]
    rfl
  · rw [Dictionary.get?_insert_of_ne (by decide), Dictionary.get?_insert_self]
    rfl

/-! ## §2 Responses -/

/-- The response to keep of an answer: one without an error status. -/
def accepted? : Option (Except Error Response) → Option Response
  | some (.ok response) => if response.isError then none else some response
  | _ => none

/-- The response to keep of a call. The answers of monitors are not kept. -/
def Delivery.taken? (d : Delivery W) : Option Response :=
  match d.purpose with
  | .task => accepted? d.answer
  | .monitor _ => none

/-- The response taken last. -/
def latest (deliveries : List (Delivery W)) : Option Response :=
  (deliveries.filterMap Delivery.taken?).getLast?

/-- Calls that bring nothing do not change the response taken last. -/
theorem latest_append_of_none {deliveries calls : List (Delivery W)}
    (h : ∀ d ∈ calls, d.taken? = none) : latest (deliveries ++ calls) = latest deliveries := by
  rw [latest, List.filterMap_append, List.filterMap_eq_nil_iff.mpr h, List.append_nil, latest]

/-- A response that a call brings is the last one. -/
theorem latest_append_of_some {deliveries : List (Delivery W)} {d : Delivery W}
    {response : Response} (h : d.taken? = some response) :
    latest (deliveries ++ [d]) = some response := by
  rw [latest, List.filterMap_append, List.filterMap_cons_some h, List.filterMap_nil,
    List.getLast?_concat]

namespace Run

variable {r : Run W} {t : Task} {p q : Progress W}

theorem taken?_monitorCall? (position : Position) (p : Progress W) :
    ∀ d ∈ (r.monitorCall? t position p).toList, d.taken? = none := by
  intro d hd
  have hpurpose := (monitored_monitorCall? (r := r) (t := t) position p).purpose d
    (Option.mem_toList.mp hd)
  rw [Delivery.taken?, hpurpose]

theorem taken?_taskCall {draft : Draft} {answer : Option (Except Error Response)}
    (h : r.Answered t p draft answer) :
    (r.taskCall t draft (r.mapped t p)).1.taken? = accepted? answer := by
  rw [← h.answer_eq]
  rfl

theorem latest_told (position : Position) (p : Progress W) :
    latest (r.told t position p).deliveries = latest p.deliveries := by
  rw [(led_told position p).deliveries]
  exact latest_append_of_none (taken?_monitorCall? position p)

/-! ## §3 Moments -/

/-- The points of the phases of a task that has just begun, each with the calls whose answers have
been taken in: an answer is taken in once its response is stored, or once the step fails on it. -/
inductive Within (r : Run W) (t : Task) (p : Progress W) :
    Progress W → List (Delivery W) → Prop
  | begun : Within r t p p p.deliveries
  | briefed : Within r t p (r.briefed t p) (r.briefed t p).deliveries
  /-- Some lines of the input mapping have been run, the last of them perhaps in vain; the others go
  on from here (`runLines_append`). -/
  | reading (k : Nat) :
      Within r t p
        ((r.briefed t p).withState (r.inputOutcome (t.input.take k) (r.briefed t p)).state)
        (r.briefed t p).deliveries
  /-- The dispatch is in flight. -/
  | suspended :
      Within r t p ((r.mapped t p).withStatus (.suspended t.name)) (r.mapped t p).deliveries
  /-- An answer has come, or the call has been given up. -/
  | returned {draft : Draft} {answer : Option (Except Error Response)}
      (h : r.Answered t p draft answer) :
      Within r t p (r.dispatched t draft p) (r.mapped t p).deliveries
  /-- The answer is a response, not yet looked at. -/
  | resumed {draft : Draft} {response : Response}
      (h : r.Answered t p draft (some (.ok response))) :
      Within r t p (r.resumed t draft p) (r.mapped t p).deliveries
  | stored {draft : Draft} {response : Response}
      (h : r.Answered t p draft (some (.ok response))) (hstatus : response.isError = false) :
      Within r t p (r.answered t draft response p) (r.dispatched t draft p).deliveries
  /-- Some lines of the output mapping have been run, the last of them perhaps in vain. -/
  | writing {draft : Draft} {response : Response} (k : Nat)
      (h : r.Answered t p draft (some (.ok response))) (hstatus : response.isError = false) :
      Within r t p
        ((r.answered t draft response p).withState
          (r.outputOutcome t (t.output.take k) (r.answered t draft response p)).state)
        (r.dispatched t draft p).deliveries
  /-- The last phase is over, or one has failed. -/
  | left {q : Progress W} {result : Except Error (Option Json)} (h : r.Served t p result q) :
      Within r t p q q.deliveries

/-- The points of a run: before and after each step, and within the visits. -/
inductive Moment (r : Run W) (start : Progress W) : Progress W → List (Delivery W) → Prop
  | between (n : Nat) : Moment r start (r.advance n start) (r.advance n start).deliveries
  | within {n : Nat} {v : Visit W} {q : Progress W} {heard : List (Delivery W)}
      (hv : v ∈ r.visits n start) (h : r.Within v.task v.begun q heard) : Moment r start q heard

variable {payload : Json}

/-- The state is slotted, with the response that was taken last. -/
def Holds (payload : Json) (p : Progress W) (heard : List (Delivery W)) : Prop :=
  Slotted payload (latest heard) p.inst.state

theorem Holds.begun (h : Holds payload p p.deliveries) {name : String} :
    Holds payload (p.begun name) (p.begun name).deliveries := h

theorem Holds.briefed (h : Holds payload p p.deliveries) :
    Holds payload (r.briefed t p) (r.briefed t p).deliveries := by
  rw [Holds, Run.briefed, latest_told, told_inst]
  exact h

theorem Holds.mapped (h : Holds payload p p.deliveries) :
    Holds payload (r.mapped t p) (r.mapped t p).deliveries :=
  Slotted.edited (Holds.briefed (r := r) (t := t) h) (mapInput_edited ..)

/-- With the response stored, the slots hold it. -/
theorem Holds.answered (h : Holds payload p p.deliveries) {draft : Draft} {response : Response}
    (hanswered : r.Answered t p draft (some (.ok response))) (hstatus : response.isError = false) :
    Holds payload (r.answered t draft response p) (r.dispatched t draft p).deliveries := by
  have htaken : (r.taskCall t draft (r.mapped t p)).1.taken? = some response := by
    rw [taken?_taskCall hanswered, accepted?, hstatus]
    rfl
  have hlatest : latest (r.dispatched t draft p).deliveries = some response :=
    latest_append_of_some htaken
  rw [Holds, hlatest]
  exact Slotted.keeping (Holds.mapped (r := r) (t := t) h) response

theorem Holds.digested (h : Holds payload p p.deliveries) {draft : Draft} {response : Response}
    (hanswered : r.Answered t p draft (some (.ok response))) (hstatus : response.isError = false) :
    Holds payload (r.digested t draft response p) (r.digested t draft response p).deliveries := by
  rw [digested_deliveries]
  exact Slotted.edited (h.answered hanswered hstatus) (mapOutput_edited ..)

/-- With no response to store, the slots stay as they were. -/
theorem Holds.dispatched (h : Holds payload p p.deliveries) {draft : Draft}
    {answer : Option (Except Error Response)} (hanswered : r.Answered t p draft answer)
    (hnone : accepted? answer = none) :
    Holds payload (r.dispatched t draft p) (r.dispatched t draft p).deliveries := by
  have hlatest : latest (r.dispatched t draft p).deliveries =
      latest (r.mapped t p).deliveries := by
    refine latest_append_of_none ?_
    intro d hd
    rw [List.mem_singleton.mp hd, ← hnone]
    exact taken?_taskCall hanswered
  rw [Holds, hlatest]
  exact Holds.mapped (r := r) (t := t) h

/-- However the phases of a task end, the slots are intact. -/
theorem Holds.served (h : Holds payload p p.deliveries) {result : Except Error (Option Json)}
    (hserved : r.Served t p result q) : Holds payload q q.deliveries := by
  cases hserved with
  | unmapped | expired => exact h.mapped
  | unanswered hanswered => exact h.dispatched hanswered rfl
  | rejected hanswered => exact h.dispatched hanswered rfl
  | refused hanswered hstatus =>
    exact h.dispatched hanswered (by rw [accepted?, hstatus]; rfl)
  | undigested hanswered hstatus => exact h.digested hanswered hstatus
  | done hanswered hstatus =>
    rw [Holds, reported, latest_told, told_inst]
    exact h.digested hanswered hstatus

/-- At every point of its phases, the slots are intact. -/
theorem Holds.within (h : Holds payload p p.deliveries) {heard : List (Delivery W)}
    (hwithin : r.Within t p q heard) : Holds payload q heard := by
  cases hwithin with
  | begun => exact h
  | briefed => exact h.briefed
  | reading k => exact Slotted.edited (Holds.briefed (r := r) (t := t) h) (mapInput_edited ..)
  | suspended => exact h.mapped
  | returned => exact h.mapped
  | resumed => exact h.mapped
  | stored hanswered hstatus => exact h.answered hanswered hstatus
  | writing k hanswered hstatus =>
    exact Slotted.edited (h.answered hanswered hstatus) (mapOutput_edited ..)
  | left hserved => exact h.served hserved

/-! ## §4 Runs -/

theorem Stepped.holds {made : Option (Visit W)} (hstep : r.Stepped p made q)
    (h : Holds payload p p.deliveries) : Holds payload q q.deliveries := by
  cases hstep with
  | ended => exact h
  | @cancelled t =>
    obtain ⟨status, stage, heq⟩ := cancelledBefore_eq (r := r) t.name p
    rw [heq]
    exact h
  | @visited t hready =>
    obtain ⟨status, stage, heq⟩ := settled_eq (r := r) (r.visit t p)
    rw [heq]
    have hleft : Holds payload (r.visit t p).left (r.visit t p).left.deliveries :=
      Holds.served h.begun hready.served
    exact hleft

theorem Sane.holds_advance (hsane : r.Sane p) (h : Holds payload p p.deliveries) (n : Nat) :
    Holds payload (r.advance n p) (r.advance n p).deliveries := by
  induction n generalizing p with
  | zero => exact h
  | succ n ih =>
    rw [advance_succ]
    exact ih (hsane.stepped.sane hsane) (hsane.stepped.holds h)

end Run

namespace Engine

open Run

theorem slotted_openingState (id flowId correlationId : String) (payload : Json) :
    Slotted payload none (openingState id flowId correlationId payload) := by
  refine ⟨_, rfl, ?_, rfl, ⟨_, rfl⟩, ?_, rfl, rfl, rfl⟩
  · intro key hkey
    simp [Dictionary.keys] at hkey
    rcases hkey with rfl | rfl <;> decide
  · intro v hv
    cases hv

/-- At every moment of a run the root of the state is an object with no other slots than six; the
input is the payload, the model an object, the output an object if there is one, and the response
slots hold the response taken last, or are not there before the first one. -/
theorem runFlow_slots (e : Engine W) (flow : Flow) (order : Order) (supply : Supply) (world : W) :
    ∃ inst, instanceOf flow order supply = .ok inst ∧
      ∀ q heard,
        Moment (e.runOf flow supply) ((e.runOf flow supply).start inst world) q heard →
          Slotted order.payload (latest heard) q.inst.state := by
  obtain ⟨inst, hopened⟩ := exists_opened e flow order supply
  obtain ⟨id, flowId, correlationId, hstate⟩ := hopened.state
  refine ⟨inst, hopened.instanceOf_eq, ?_⟩
  intro q heard hmoment
  have hsane := hopened.sane world
  have hstart : Holds order.payload ((e.runOf flow supply).start inst world) [] := by
    show Slotted order.payload none inst.state
    rw [hstate]
    exact slotted_openingState ..
  cases hmoment with
  | between n => exact hsane.holds_advance hstart n
  | within hv hwithin =>
    obtain ⟨m, t, hready, -, rfl⟩ := hsane.mem_visits hv
    exact (hsane.holds_advance hstart m).begun.within hwithin

end Engine

end TaskFlow
