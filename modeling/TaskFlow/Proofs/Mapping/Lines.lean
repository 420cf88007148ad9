/-
TaskFlow.Proofs.Mapping.Lines — what mapping lines can do to the state, and how they can fail.

A line is expanded with data before it is read, so nothing about its target can be known from the
line as it was declared. What is known is known of every line that can be read at all: an element it
writes or removes lies below `model` or `output`.

  §1 Targets  — paths of targets lead below a key.
  §2 Writes   — what either side writes to a target.
  §3 Lines    — one line, and any number of them.
  §4 Mappings — the mapping of either side.
  §5 Plain    — a line without braces is its own expansion.
-/
import TaskFlow.Mapping.Apply
import TaskFlow.Proofs.Attempt
import TaskFlow.Proofs.Store.Space
import TaskFlow.Proofs.Template.Scan

namespace TaskFlow.Mapping

open TaskFlow TaskFlow.Text

/-! ## §1 Targets -/

/-- A text that passes the check is given back, and is a path. -/
theorem checkPath_eq_ok {cs : List Char} {path : String} (h : checkPath cs = .ok path) :
    path = String.ofList cs ∧ Path.isValid (String.ofList cs) = true := by
  unfold checkPath at h
  dsimp only at h
  split at h
  · next hvalid => exact ⟨(Except.ok.inj h).symm, hvalid⟩
  · cases h

theorem leadsInto_of_checkPath (space : String) (hne : space.toList ≠ [])
    (hdot : '.' ∉ space.toList) (hplain : '[' ∉ space.toList) {cs : List Char} {path : String}
    (hstart : startsWith (space.toList ++ ['.']) cs = true) (h : checkPath cs = .ok path) :
    Path.LeadsInto space path := by
  obtain ⟨rfl, hvalid⟩ := checkPath_eq_ok h
  exact Path.leadsInto_of_startsWith hne hdot hplain hstart hvalid

/-- The targets of the input side. -/
theorem readInputTarget_eq_ok {cs : List Char} {target : InputTarget}
    (h : readInputTarget cs = .ok target) :
    (∃ name, target = .header name) ∨ (∃ path, target = .body path) ∨
      ∃ path, target = .model path ∧ Path.LeadsInto "model" path := by
  unfold readInputTarget at h
  split at h
  · split at h
    · cases h
    · exact Or.inl ⟨_, (Except.ok.inj h).symm⟩
  · split at h
    · cases h
    · split at h
      · next hstart =>
        obtain ⟨path, hcheck, heq⟩ := map_eq_ok_iff.mp h
        have hpath := leadsInto_of_checkPath "model" (by decide) (by decide) (by decide) hstart
          hcheck
        exact Or.inr (Or.inr ⟨path, heq.symm, hpath⟩)
      · obtain ⟨path, -, heq⟩ := map_eq_ok_iff.mp h
        exact Or.inr (Or.inl ⟨path, heq.symm⟩)

/-- The targets of the output side. -/
theorem readOutputTarget_eq_ok {allowDecision : Bool} {cs : List Char} {target : OutputTarget}
    (h : readOutputTarget allowDecision cs = .ok target) :
    (target = .decision ∧ allowDecision = true) ∨
      (∃ path, target = .model path ∧ Path.LeadsInto "model" path) ∨
      ∃ path, target = .output path ∧ Path.LeadsInto "output" path := by
  unfold readOutputTarget at h
  split at h
  · split at h
    · next hallowed => exact Or.inl ⟨(Except.ok.inj h).symm, hallowed⟩
    · cases h
  · split at h
    · next hstart =>
      obtain ⟨path, hcheck, heq⟩ := map_eq_ok_iff.mp h
      have hpath := leadsInto_of_checkPath "model" (by decide) (by decide) (by decide) hstart
        hcheck
      exact Or.inr (Or.inl ⟨path, heq.symm, hpath⟩)
    · split at h
      · next hstart =>
        obtain ⟨path, hcheck, heq⟩ := map_eq_ok_iff.mp h
        have hpath := leadsInto_of_checkPath "output" (by decide) (by decide) (by decide) hstart
          hcheck
        exact Or.inr (Or.inr ⟨path, heq.symm, hpath⟩)
      · cases h

/-- The target of a line is read from its right side. -/
theorem readLine_target {τ : Type} {side : Side} {readTarget : List Char → Except LineFault τ}
    {line : String} {parsed : Line τ} (h : readLine side readTarget line = .ok parsed) :
    ∃ right, readTarget right = .ok parsed.target := by
  obtain ⟨⟨left, right⟩, -, h⟩ := bind_eq_ok_iff.mp h
  obtain ⟨source, -, h⟩ := bind_eq_ok_iff.mp h
  obtain ⟨target, htarget, heq⟩ := bind_eq_ok_iff.mp h
  cases heq
  exact ⟨right, htarget⟩

/-! ## §2 Writes -/

section

variable {α : Type}

@[simp] theorem written_state (attempt : Store × Option StateFault) (made : α) :
    (written attempt made).state = attempt.1 := by
  unfold written
  split <;> rfl

/-- A write fails with a fault of the state. -/
theorem written_eq_error {attempt : Store × Option StateFault} {made : α} {e : Error}
    (h : (written attempt made).result = .error e) : ∃ fault, e = .state fault := by
  unfold written at h
  split at h
  · cases h
  · exact ⟨_, (Except.error.inj h).symm⟩

theorem assign_edited {s : Store} {path : String} (hpath : Path.LeadsInto "model" path)
    (value : Option Json) (made : α) : s.Edited (assign s path value made).state := by
  unfold assign
  split
  · exact .erased hpath .unchanged
  · exact .erased hpath .unchanged
  · rw [written_state]
    exact .model _ hpath .unchanged

theorem assign_eq_error {s : Store} {path : String} {value : Option Json} {made : α} {e : Error}
    (h : (assign s path value made).result = .error e) : ∃ fault, e = .state fault := by
  unfold assign at h
  split at h
  · cases h
  · cases h
  · exact written_eq_error h

end

/-- A header leaves the state alone. -/
@[simp] theorem writeInput_header_state (s : Store) (draft : Draft) (name : String)
    (value : Option Json) : (writeInput s draft (.header name) value).state = s := by
  unfold writeInput
  rcases value with _ | (_ | _) <;> rfl

/-- The body of a request leaves the state alone. -/
@[simp] theorem writeInput_body_state (s : Store) (draft : Draft) (path : String)
    (value : Option Json) : (writeInput s draft (.body path) value).state = s := by
  unfold writeInput
  cases value with
  | none => rfl
  | some v =>
    dsimp only
    split <;> rfl

theorem writeInput_edited {s : Store} {target : InputTarget}
    (htarget : ∃ right, readInputTarget right = .ok target) (draft : Draft) (value : Option Json) :
    s.Edited (writeInput s draft target value).state := by
  obtain ⟨right, hread⟩ := htarget
  rcases readInputTarget_eq_ok hread with ⟨name, rfl⟩ | ⟨path, rfl⟩ | ⟨path, rfl, hpath⟩
  · rw [writeInput_header_state]
    exact .unchanged
  · rw [writeInput_body_state]
    exact .unchanged
  · exact assign_edited hpath value draft

theorem writeInput_eq_error {s : Store} {target : InputTarget} {draft : Draft}
    {value : Option Json} {e : Error} (h : (writeInput s draft target value).result = .error e) :
    ∃ fault, e = .state fault := by
  unfold writeInput at h
  split at h
  · exact assign_eq_error h
  · cases h
  · cases h
  · cases h
  · cases h
  · split at h
    · cases h
    · exact ⟨_, (Except.error.inj h).symm⟩

theorem writeOutput_edited {allowDecision : Bool} {s : Store} {target : OutputTarget}
    (htarget : ∃ right, readOutputTarget allowDecision right = .ok target)
    (decision : Option Json) (value : Option Json) :
    s.Edited (writeOutput s decision target value).state := by
  obtain ⟨right, hread⟩ := htarget
  rcases readOutputTarget_eq_ok hread with ⟨rfl, -⟩ | ⟨path, rfl, hpath⟩ | ⟨path, rfl, hpath⟩
  · exact .unchanged
  · exact assign_edited hpath value decision
  · cases value with
    | none => exact .unchanged
    | some v =>
      show s.Edited (written (s.set path v) decision).state
      rw [written_state]
      exact .output v hpath .unchanged

theorem writeOutput_eq_error {s : Store} {target : OutputTarget} {decision : Option Json}
    {value : Option Json} {e : Error}
    (h : (writeOutput s decision target value).result = .error e) :
    ∃ fault, e = .state fault := by
  unfold writeOutput at h
  split at h
  · exact assign_eq_error h
  · cases h
  · exact written_eq_error h
  · cases h

/-! ## §3 Lines -/

section

variable {τ α : Type} {read : String → Except LineFault (Line τ)}
  {write : Store → α → τ → Option Json → Outcome α}

/-- An outcome is its state with its result. -/
theorem Outcome.eq_of_result {outcome : Outcome α} {result : Except Error α}
    (h : outcome.result = result) : outcome = ⟨outcome.state, result⟩ := by
  rw [← h]

/-- A line does to the state what its target does, or nothing. -/
theorem runLine_edited
    (hwrite : ∀ line parsed, read line = .ok parsed → ∀ (s : Store) made value,
      s.Edited (write s made parsed.target value).state)
    (plugins : Plugin.Registry) (ambient : Plugin.Ambient) (line : String) (s : Store) (made : α) :
    s.Edited (runLine read plugins ambient write line s made).state := by
  unfold runLine
  dsimp only
  split
  · exact .unchanged
  · next parsed hread =>
    split
    · exact .unchanged
    · exact hwrite _ parsed hread s made _

/-- A line fails because it cannot be read once it is expanded, by its plugin or by its write. -/
theorem runLine_eq_error
    (hwrite : ∀ s made target value e, (write s made target value).result = .error e →
      ∃ fault, e = .state fault)
    {plugins : Plugin.Registry} {ambient : Plugin.Ambient} {line : String} {s : Store} {made : α}
    {e : Error} (h : (runLine read plugins ambient write line s made).result = .error e) :
    (∃ fault, read (Template.expand s line) = .error fault ∧
        e = lineError (Template.expand s line) fault) ∨
      (∃ cause, e = .plugin cause) ∨ ∃ fault, e = .state fault := by
  unfold runLine at h
  dsimp only at h
  split at h
  · next fault hread => exact Or.inl ⟨fault, hread, (Except.error.inj h).symm⟩
  · next parsed hread =>
    refine Or.inr ?_
    split at h
    · next e' hevaluate =>
      refine Or.inl ?_
      cases h
      unfold evaluate at hevaluate
      split at hevaluate
      · cases hevaluate
      · cases hevaluate
      · cases hevaluate
      · split at hevaluate
        · cases hevaluate
        · exact ⟨_, (Except.error.inj hevaluate).symm⟩
    · exact Or.inr (hwrite _ _ _ _ _ h)

/-- Lines leave an edited state, also when one of them fails. -/
theorem runLines_edited {run : Nat → String → Store → α → Outcome α}
    (hrun : ∀ n line (s : Store) made, s.Edited (run n line s made).state)
    (lines : List String) (n : Nat) (s : Store) (made : α) :
    s.Edited (runLines run n lines s made).state := by
  -- the line that fails is the last one run: its edits are kept, and none follow
  induction lines generalizing n s made with
  | nil => exact .unchanged
  | cons line rest ih =>
    have hline := hrun n line s made
    unfold runLines
    split
    · next next grown hok =>
      rw [hok] at hline
      exact hline.trans (ih (n + 1) next grown)
    · next next e herror =>
      rw [herror] at hline
      exact hline

/-- Lines fail because one of them does. -/
theorem runLines_eq_error {run : Nat → String → Store → α → Outcome α} {lines : List String}
    {n : Nat} {s : Store} {made : α} {e : Error}
    (h : (runLines run n lines s made).result = .error e) :
    ∃ line ∈ lines, ∃ m t made', (run m line t made').result = .error e := by
  induction lines generalizing n s made with
  | nil => cases h
  | cons line rest ih =>
    unfold runLines at h
    split at h
    · obtain ⟨other, hmem, hother⟩ := ih h
      exact ⟨other, List.mem_cons_of_mem _ hmem, hother⟩
    · next next e' herror =>
      cases h
      exact ⟨line, List.mem_cons_self, n, s, made, by rw [herror]⟩

/-- The lines in front are run alone, and what follows starts from what they left. -/
theorem runLines_append (run : Nat → String → Store → α → Outcome α) (front back : List String)
    (n : Nat) (s : Store) (made : α) :
    runLines run n (front ++ back) s made =
      match runLines run n front s made with
      | ⟨t, .ok grown⟩ => runLines run (n + front.length) back t grown
      | ⟨t, .error e⟩ => ⟨t, .error e⟩ := by
  induction front generalizing n s made with
  | nil => simp [runLines]
  | cons line rest ih =>
    rw [List.cons_append, runLines, runLines]
    split
    · next next grown hok =>
      rw [ih, List.length_cons, Nat.add_comm rest.length, ← Nat.add_assoc]
    · rfl

end

/-! ## §4 Mappings -/

section

variable (plugins : Plugin.Registry) (ambient : Plugin.Ambient)

theorem mapInput_edited (lines : List String) (s : Store) :
    s.Edited (mapInput plugins ambient lines s).state := by
  refine runLines_edited (fun n line t made => runLine_edited ?_ _ _ _ _ _) lines 0 s _
  intro line parsed hread
  exact fun u draft value => writeInput_edited (readLine_target hread) draft value

theorem mapOutput_edited (allowDecision : Bool) (lines : List String) (s : Store) :
    s.Edited (mapOutput plugins ambient allowDecision lines s).state := by
  refine runLines_edited (fun n line t made => runLine_edited ?_ _ _ _ _ _) lines 0 s _
  intro line parsed hread
  exact fun u made value => writeOutput_edited (readLine_target hread) made value

variable {plugins ambient}

theorem mapInput_eq_error {lines : List String} {s : Store} {e : Error}
    (h : (mapInput plugins ambient lines s).result = .error e) :
    (∃ line ∈ lines, ∃ t fault, readInput (Template.expand t line) = .error fault ∧
        e = lineError (Template.expand t line) fault) ∨
      (∃ cause, e = .plugin cause) ∨ ∃ fault, e = .state fault := by
  obtain ⟨line, hmem, n, t, made, hline⟩ := runLines_eq_error h
  rcases runLine_eq_error (fun _ _ _ _ _ => writeInput_eq_error) hline with ⟨fault, hread⟩ | hother
  · exact Or.inl ⟨line, hmem, t, fault, hread⟩
  · exact Or.inr hother

theorem mapOutput_eq_error {allowDecision : Bool} {lines : List String} {s : Store} {e : Error}
    (h : (mapOutput plugins ambient allowDecision lines s).result = .error e) :
    (∃ line ∈ lines, ∃ t fault,
        readOutput allowDecision (Template.expand t line) = .error fault ∧
          e = lineError (Template.expand t line) fault) ∨
      (∃ cause, e = .plugin cause) ∨ ∃ fault, e = .state fault := by
  obtain ⟨line, hmem, n, t, made, hline⟩ := runLines_eq_error h
  rcases runLine_eq_error (fun _ _ _ _ _ => writeOutput_eq_error) hline with ⟨fault, hread⟩ | hother
  · exact Or.inl ⟨line, hmem, t, fault, hread⟩
  · exact Or.inr hother

end

end TaskFlow.Mapping

/-! ## §5 Plain lines -/

namespace TaskFlow.Template

/-- A text without an open brace is its own expansion. -/
theorem expand_of_no_brace (s : Store) {text : String} (h : '\x7b' ∉ text.toList) :
    expand s text = text := by
  rw [expand, fill_of_no_open h, String.ofList_toList]

end TaskFlow.Template
