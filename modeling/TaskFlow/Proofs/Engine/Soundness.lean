/-
TaskFlow.Proofs.Engine.Soundness — what loading a flow rules out for its runs.

The rules are checked once, on the lines as they are declared. A line without braces is read the
same way in every state, so a run of a plain flow finds nothing that loading has not seen: what can
still fail is a plugin, a write, the time, the functions, or a decision that selects nothing.

  §1 Plain    — `Flow.Plain` and `Flow.Prepared`.
  §2 Lawful   — the actions of a visit that cannot fail.
  §3 Failures — why a visit of a plain flow fails.
  §4 Runs     — all of it, of every run.
-/
import TaskFlow.Proofs.Engine.Calls

namespace TaskFlow

open TaskFlow.Mapping

variable {W : Type}

/-! ## §1 Plain -/

namespace Flow

/-- No mapping line has a template in it. -/
def Plain (f : Flow) : Prop :=
  ∀ t ∈ f.tasks, ∀ line ∈ t.input ++ t.output, '\x7b' ∉ line.toList

/-- What the steps of a run rely on: there are next tasks where a step goes on, and no line that was
accepted is refused when it is read again, in whatever state. -/
structure Prepared (f : Flow) : Prop where
  sequential : ∀ t ∈ f.tasks, t.execution = .sequential →
    ∃ next u, t.next.head? = some next ∧ f.task next = .ok u
  boolean : ∀ t ∈ f.tasks, t.execution = .decision → ∀ b,
    ∃ next u, Run.select t (some (.bool b)) = .ok next ∧ f.task next = .ok u
  input : ∀ t ∈ f.tasks, ∀ line ∈ t.input, ∀ s,
    ∃ parsed, readInput (Template.expand s line) = .ok parsed
  output : ∀ t ∈ f.tasks, ∀ line ∈ t.output, ∀ s,
    ∃ parsed, readOutput t.decides (Template.expand s line) = .ok parsed

theorem Plain.prepared {f : Flow} (h : f.Plain) : f.Prepared := by
  refine ⟨?_, ?_, ?_, ?_⟩
  · intro t ht hkind
    obtain ⟨next, hnext⟩ := next_of_sequential ht hkind
    have hmem : next ∈ t.next := by
      rw [hnext]
      exact List.mem_singleton_self next
    obtain ⟨u, hu⟩ := exists_next ht hmem
    exact ⟨next, u, by rw [hnext]; rfl, hu⟩
  · intro t ht hkind b
    obtain ⟨next, hhandover⟩ := Run.exists_handsOver_of_bool ht hkind b
    obtain ⟨u, hu⟩ := exists_next ht hhandover.mem
    exact ⟨next, u, (Run.select_eq_ok_iff hkind).mpr hhandover, hu⟩
  · intro t ht line hline s
    rw [Template.expand_of_no_brace s (h t ht line (List.mem_append_left _ hline))]
    exact exists_readInput ht hline
  · intro t ht line hline s
    rw [Template.expand_of_no_brace s (h t ht line (List.mem_append_right _ hline))]
    exact exists_readOutput ht hline

end Flow

namespace Run

variable {r : Run W} {t : Task} {p : Progress W}

/-! ## §2 Lawful -/

/-- The actions of a visit that cannot fail: its task is found, each change of status is allowed
where it is made, and a response can be stored. -/
structure Lawful (r : Run W) (v : Visit W) : Prop where
  found : r.flow.task v.task.name = .ok v.task
  begins : v.arrived.inst.beginTask v.task.name = .ok v.begun.inst
  suspends : (r.mapped v.task v.begun).inst.suspend =
    .ok ((r.mapped v.task v.begun).withStatus (.suspended v.task.name)).inst
  resumes : ∀ draft, (r.dispatched v.task draft v.begun).inst.resume =
    .ok (r.resumed v.task draft v.begun).inst
  stores : ∀ draft response, (keepResponse response).exec (r.resumed v.task draft v.begun) =
    (.ok (), r.answered v.task draft response v.begun)
  completes : v.conclusion = .ok none → ∃ inst, v.left.inst.complete = .ok inst
  fails : ∀ cause, v.conclusion = .error cause →
    ∃ inst, v.left.inst.fail cause.message = .ok inst

theorem exists_fail {i : Instance} (h : i.status.isTerminal = false) (reason : String) :
    ∃ failed, i.fail reason = .ok failed := by
  unfold Instance.fail
  rw [h]
  exact ⟨_, rfl⟩

theorem Ready.lawful (h : r.Ready p t) : Lawful r (r.visit t p) := by
  refine ⟨h.task, h.beginTask_eq, ?_, fun draft => rfl, ?_, ?_, ?_⟩
  · have hstatus : (r.mapped t (p.begun t.name)).inst.status = .executing t.name := mapped_status _
    show (r.mapped t (p.begun t.name)).inst.suspend = _
    unfold Instance.suspend
    rw [hstatus]
    rfl
  · intro draft response
    have hbegun : (p.begun t.name).inst.state.IsObject := h.isObject
    have hmapped : (r.mapped t (p.begun t.name)).inst.state.IsObject := mapped_isObject hbegun
    obtain ⟨fields, hroot⟩ := hmapped
    exact exec_keepResponse response hroot
  · intro hnone
    obtain ⟨decision, hresult, -⟩ := conclusion_eq_ok hnone
    unfold Instance.complete
    rw [h.left_executing hresult]
    exact ⟨_, rfl⟩
  · intro cause _
    exact exists_fail h.left_not_terminal _

end Run

/-! ## §3 Failures -/

/-- The errors that no check of a flow can foresee. -/
inductive Error.Unforeseen : Error → Prop
  | plugin (cause : PluginError) : Unforeseen (.plugin cause)
  | state (cause : StateFault) : Unforeseen (.state cause)
  | timeout (route : String) (millis : Nat) : Unforeseen (.timeout route millis)
  | taskFailure (status : Nat) (text : String) : Unforeseen (.taskFailure status text)
  | cancelled (cause : CancelCause) : Unforeseen (.cancelled cause)

/-- The class is none of those that loading rules out. -/
structure ErrorKind.Possible (kind : ErrorKind) : Prop where
  not_flowLoad : kind ≠ .flowLoad
  not_taskNotFound : kind ≠ .taskNotFound
  not_invalidState : kind ≠ .invalidState

theorem Error.Unforeseen.possible {e : Error} (h : e.Unforeseen) :
    e.kind.Possible ∧ e.kind ≠ .mapping := by
  have hkind : ∀ kind : ErrorKind, kind ∈ [ErrorKind.duplicateName, .arity, .typePromotion,
      .divisionByZero, .evaluation, .stateStore, .timeout, .taskFailure, .cancelled] →
        kind.Possible ∧ kind ≠ .mapping := by
    intro kind hmem
    refine ⟨⟨?_, ?_, ?_⟩, ?_⟩
    all_goals
      rintro rfl
      revert hmem
      decide
  apply hkind
  cases h with
  | plugin cause => cases cause <;> simp [Error.kind, PluginError.kind]
  | state | timeout | taskFailure | cancelled => simp [Error.kind]

namespace Run

variable {r : Run W} {t : Task} {p : Progress W}

/-- The last call on record is the dispatch of a task, answered by the error. -/
def Reported (deliveries : List (Delivery W)) (e : Error) : Prop :=
  ∃ d, deliveries.getLast? = some d ∧ d.purpose = .task ∧ d.answer = some (.error e)

/-- Where the phases of a task of a prepared flow fail, nothing could foresee it, or the function
reported it. -/
theorem Served.error_cases {q : Progress W} {e : Error} (h : r.Served t p (.error e) q)
    (hprepared : r.flow.Prepared) (ht : t ∈ r.flow.tasks) :
    e.Unforeseen ∨ Reported q.deliveries e := by
  cases h with
  | unmapped hin =>
    rcases mapInput_eq_error hin with
      ⟨line, hline, s, fault, hread, -⟩ | ⟨cause, rfl⟩ | ⟨fault, rfl⟩
    -- the line was read when the flow was loaded
    · obtain ⟨parsed, hparsed⟩ := hprepared.input t ht line hline s
      cases hparsed.symm.trans hread
    · exact Or.inl (.plugin cause)
    · exact Or.inl (.state fault)
  | expired => exact Or.inl (.timeout ..)
  | unanswered => exact Or.inl (.timeout ..)
  | @rejected draft _ hanswered =>
    refine Or.inr ⟨(r.taskCall t draft (r.mapped t p)).1, ?_, rfl, hanswered.answer_eq⟩
    rw [(led_dispatched r t draft p).deliveries, ← List.append_assoc, List.getLast?_concat]
  | refused => exact Or.inl (.taskFailure ..)
  | undigested _ _ hout =>
    rcases mapOutput_eq_error hout with
      ⟨line, hline, s, fault, hread, -⟩ | ⟨cause, rfl⟩ | ⟨fault, rfl⟩
    · obtain ⟨parsed, hparsed⟩ := hprepared.output t ht line hline s
      cases hparsed.symm.trans hread
    · exact Or.inl (.plugin cause)
    · exact Or.inl (.state fault)

/-- The visit is of a decision task whose decision selects nothing, and fails for that. -/
structure Misdecided (v : Visit W) (e : Error) : Prop where
  kind : v.task.execution = .decision
  undecided : ∃ decision, v.result = .ok decision ∧ Undecided v.task decision ∧
    e = .mapping (.badDecision v.task.name (describeDecision decision) v.task.next.length)

/-- Why a visit of a prepared flow fails. -/
theorem Ready.error_cases (h : r.Ready p t) (hprepared : r.flow.Prepared) {e : Error}
    (hcause : (r.visit t p).conclusion = .error e) :
    e.Unforeseen ∨ Reported (r.visit t p).left.deliveries e ∨ Misdecided (r.visit t p) e := by
  have hserved := h.served
  cases hresult : (r.visit t p).result with
  | error e' =>
    rw [Visit.conclusion, hresult] at hcause
    cases hcause
    rw [hresult] at hserved
    rcases hserved.error_cases hprepared h.mem with hunforeseen | hreported
    · exact Or.inl hunforeseen
    · exact Or.inr (Or.inl hreported)
  | ok decision =>
    rw [Visit.conclusion, hresult] at hcause
    obtain ⟨hkind, hundecided, rfl⟩ := successor_eq_error h.mem hcause
    exact Or.inr (Or.inr ⟨hkind, decision, hresult, hundecided, rfl⟩)

/-- Why a run of a prepared flow fails. -/
theorem Sane.error_cases (h : r.Sane p) (hstage : p.stage = .next r.flow.firstTask)
    (hexecuted : p.inst.executed = []) (hprepared : r.flow.Prepared) {n : Nat}
    {failure : FlowFailure} (hfailed : (r.advance n p).stage = .failed failure) :
    failure.cause.Unforeseen ∨ Reported (r.advance n p).deliveries failure.cause ∨
      ∃ v, (r.visits n p).getLast? = some v ∧ Misdecided v failure.cause := by
  have hblamed := h.advance_blamed hstage hexecuted hfailed
  generalize hvisits : r.visits n p = visits at hblamed
  cases hblamed with
  | @step front last cause hcause =>
    have hlast : last ∈ r.visits n p := hvisits ▸ List.mem_concat_self
    have hleft : (r.advance n p).deliveries = last.left.deliveries := by
      obtain ⟨status, stage, hadvance⟩ := h.advance_of_last hvisits
      rw [hadvance]
      rfl
    obtain ⟨m, t, hready, -, rfl⟩ := h.mem_visits hlast
    rw [hleft]
    rcases hready.error_cases hprepared hcause with hunforeseen | hreported | hmisdecided
    · exact Or.inl hunforeseen
    · exact Or.inr (Or.inl hreported)
    · exact Or.inr (Or.inr ⟨_, List.getLast?_concat .., hmisdecided⟩)
  | unbegun => exact Or.inl (.cancelled _)
  | between => exact Or.inl (.cancelled _)

end Run

/-! ## §4 Runs -/

/-- What a run of so many steps can rely on, and how it can fail. -/
structure Sound (r : Run W) (start : Progress W) (n : Nat) : Prop where
  prepared : r.flow.Prepared
  lawful : ∀ v ∈ r.visits n start, Run.Lawful r v
  /-- The task that the run comes to is there and may begin, and the instance may fail before it. -/
  current : ∀ name, (r.advance n start).stage = .next name →
    ∃ t begun, r.flow.task name = .ok t ∧ (r.advance n start).inst.beginTask name = .ok begun ∧
      ∀ reason, ∃ failed, (r.advance n start).inst.fail reason = .ok failed
  /-- An error that no function reported is of a possible class, and is about mappings only if a
  decision selects nothing. -/
  failures : ∀ failure, (r.advance n start).ending = .failed failure →
    Run.Reported (r.advance n start).deliveries failure.cause ∨
      failure.cause.kind.Possible ∧ (failure.cause.kind = .mapping →
        ∃ v, (r.visits n start).getLast? = some v ∧ Run.Misdecided v failure.cause)

namespace Engine

open Run

/-- Whatever the payload, the plugins and the host: an order opens an instance, and a run of a plain
flow that has been loaded is sound. -/
theorem runFlow_sound (e : Engine W) {flow : Flow} (hplain : flow.Plain) (order : Order)
    (supply : Supply) (n : Nat) (world : W) :
    ∃ inst, instanceOf flow order supply = .ok inst ∧
      let r := e.runOf flow supply
      let start := r.start inst world
      e.runFlow flow order supply n world = (r.advance n start).report ∧ Sound r start n := by
  obtain ⟨inst, hopened⟩ := exists_opened e flow order supply
  have hsane := hopened.sane world
  have hprepared := hplain.prepared
  refine ⟨inst, hopened.instanceOf_eq, hopened.report n world, hprepared, ?_, ?_, ?_⟩
  · intro v hv
    obtain ⟨m, t, hready, -, rfl⟩ := hsane.mem_visits hv
    exact hready.lawful
  · intro name hstage
    obtain ⟨t, hready, rfl⟩ := (hsane.advance n).ready hstage
    exact ⟨t, _, hready.task, hready.beginTask_eq, exists_fail hready.not_terminal⟩
  · intro failure hfailed
    have hcases := hsane.error_cases rfl hopened.executed hprepared
      (ending_failed_iff.mp hfailed)
    rcases hcases with hunforeseen | hreported | ⟨v, hlast, hmisdecided⟩
    · obtain ⟨hpossible, hother⟩ := hunforeseen.possible
      exact Or.inr ⟨hpossible, fun hmapping => absurd hmapping hother⟩
    · exact Or.inl hreported
    · refine Or.inr ⟨?_, fun _ => ⟨v, hlast, hmisdecided⟩⟩
      obtain ⟨decision, -, -, hcause⟩ := hmisdecided.undecided
      rw [hcause]
      refine ⟨?_, ?_, ?_⟩ <;> simp [Error.kind]

/-- A flow that asks a function which way to go. -/
def choosing : Flow where
  definition :=
    { id := "choose"
      firstTask := "pick"
      tasks :=
        [{ name := "pick", route := "picker.v1", execution := .decision,
           input := ["input.choice -> choice"], output := ["result.choice -> decision"],
           next := ["left", "right"] },
         { name := "left", route := "worker.v1", execution := .finish },
         { name := "right", route := "worker.v1", execution := .finish }] }
  valid := by decide +kernel

/-- An engine whose functions give back what they are sent, at once. -/
def echoing : Engine Unit where
  plugins := .empty
  settings := {}
  host :=
    { dispatch := fun _ _ request _ =>
        { delay := some 0, answer := .ok (.ok request.body), answered := (), abandoned := () }
      cancelled := fun _ _ => false
      overrides := fun _ => .empty }
  epoch := ⟨0, 0⟩

/-- The order of a choice. -/
def choiceOf (choice : Json) : Order := ⟨"choose", .obj [("choice", choice)], none⟩

/-- A choice that selects nothing fails its run, and for no other reason. -/
theorem choosing_sound :
    choosing.Plain ∧
      (echoing.runFlow choosing (choiceOf (.str "up")) ⟨0⟩ 3 ()).ending =
        .failed ⟨"choose", some "pick", .mapping (.badDecision "pick" "\"up\"" 2)⟩ ∧
      ∃ inst, instanceOf choosing (choiceOf (.str "up")) ⟨0⟩ = .ok inst ∧
        let r := echoing.runOf choosing ⟨0⟩
        let start := r.start inst ()
        echoing.runFlow choosing (choiceOf (.str "up")) ⟨0⟩ 3 () = (r.advance 3 start).report ∧
          Sound r start 3 := by
  have hplain : choosing.Plain := by
    unfold Flow.Plain
    decide
  exact ⟨hplain, by decide +kernel, runFlow_sound echoing hplain (choiceOf (.str "up")) ⟨0⟩ 3 ()⟩

end Engine

end TaskFlow
