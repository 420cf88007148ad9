/-
TaskFlow.Proofs.Mapping.Turns — what is left of mapping lines whose targets part from each other.

A line is expanded, read and evaluated in the state that the lines before it left. Its turn is what
comes of that: a target and a value. From then on the line does one thing, it makes one change of
the state or of the request body, or none, so that lines are a succession of changes
(`Store.Succession`) whatever was computed in between. If the targets part from each other, each of
them reads in the end as its own turn left it.

  §1 Turns   — `Turn`; the turns of lines that are run one after the other.
  §2 Runs    — `Ran`: every turn was written, the one after the other.
  §3 Changes — what a turn changes, on either side.
  §4 Targets — what the targets read in the end.
-/
import Mathlib.Data.List.Pairwise
import TaskFlow.Proofs.Mapping.Lines
import TaskFlow.Proofs.Store.Succession

namespace TaskFlow.Mapping

open TaskFlow TaskFlow.Plugin

/-! ## §1 Turns -/

/-- What a line comes to when its turn is there: its target and the value of its source, nothing for
a missing element. -/
structure Turn (τ : Type) where
  target : τ
  value : Option Json
deriving DecidableEq

section

variable {τ α : Type} (read : String → Except LineFault (Line τ)) (plugins : Registry)

/-- The turn of a line in a state, if the line can be read and evaluated there. -/
def turn? (ambient : Ambient) (line : String) (s : Store) : Option (Turn τ) :=
  match read (Template.expand s line) with
  | .error _ => none
  | .ok parsed =>
    match evaluate plugins ambient s parsed.source with
    | .error _ => none
    | .ok value => some ⟨parsed.target, value⟩

/-- The turns of lines, numbered from `n`: each in the state that was left by writing the turns
before it, and none behind one that cannot be written. -/
def turns (ambient : Ambient) (write : Store → α → τ → Option Json → Outcome α) (n : Nat) :
    List String → Store → α → List (Turn τ)
  | [], _, _ => []
  | line :: rest, s, made =>
    match turn? read plugins (ambient.branch n) line s with
    | none => []
    | some turn =>
      match write s made turn.target turn.value with
      | ⟨next, .ok grown⟩ => turn :: turns ambient write (n + 1) rest next grown
      | ⟨_, .error _⟩ => [turn]

end

/-- The turns of the input mapping of a task. -/
def inputTurns (plugins : Registry) (ambient : Ambient) (lines : List String) (s : Store) :
    List (Turn InputTarget) :=
  turns readInput plugins ambient writeInput 0 lines s Draft.empty

/-- The turns of the output mapping of a task. -/
def outputTurns (plugins : Registry) (ambient : Ambient) (allowDecision : Bool)
    (lines : List String) (s : Store) : List (Turn OutputTarget) :=
  turns (readOutput allowDecision) plugins ambient writeOutput 0 lines s none

/-! ## §2 Runs -/

section

variable {τ α : Type}

/-- Turns written one after the other, from a state and what was made so far to what they leave. -/
inductive Ran (write : Store → α → τ → Option Json → Outcome α) :
    Store → α → List (Turn τ) → Store → α → Prop
  | nil (s : Store) (made : α) : Ran write s made [] s made
  | cons {s next t : Store} {made grown final : α} {turn : Turn τ} {rest : List (Turn τ)}
      (hturn : write s made turn.target turn.value = ⟨next, .ok grown⟩)
      (hrest : Ran write next grown rest t final) : Ran write s made (turn :: rest) t final

variable {read : String → Except LineFault (Line τ)} {plugins : Registry} {ambient : Ambient}
  {write : Store → α → τ → Option Json → Outcome α} {s t : Store} {made final : α}

/-- A line whose turn is there writes it. -/
theorem runLine_of_turn? {line : String} {turn : Turn τ}
    (h : turn? read plugins ambient line s = some turn) :
    runLine read plugins ambient write line s made = write s made turn.target turn.value := by
  unfold turn? at h
  split at h
  · cases h
  · next parsed hread =>
    split at h
    · cases h
    · next value hvalue =>
      cases h
      simp only [runLine, hread, hvalue]

/-- A line that is run without an error has a turn, which is written. -/
theorem exists_turn {line : String}
    (h : runLine read plugins ambient write line s made = ⟨t, .ok final⟩) :
    ∃ turn, turn? read plugins ambient line s = some turn ∧
      write s made turn.target turn.value = ⟨t, .ok final⟩ := by
  unfold runLine at h
  dsimp only at h
  split at h
  · cases h
  · next parsed hread =>
    split at h
    · cases h
    · next value hvalue =>
      refine ⟨⟨parsed.target, value⟩, ?_, h⟩
      unfold turn?
      rw [hread]
      dsimp only
      rw [hvalue]

/-- Lines that are run without an error have a turn each, and the turns are written in order. -/
theorem ran_of_runLines {lines : List String} {n : Nat}
    (h : runLines (fun n => runLine read plugins (ambient.branch n) write) n lines s made =
      ⟨t, .ok final⟩) :
    Ran write s made (turns read plugins ambient write n lines s made) t final ∧
      (turns read plugins ambient write n lines s made).length = lines.length := by
  induction lines generalizing n s made with
  | nil =>
    cases h
    exact ⟨.nil _ _, rfl⟩
  | cons line rest ih =>
    unfold runLines at h
    split at h
    · next next grown hline =>
      obtain ⟨turn, hturn, hwrite⟩ := exists_turn hline
      obtain ⟨hran, hlength⟩ := ih h
      rw [turns, hturn]
      dsimp only
      rw [hwrite]
      exact ⟨.cons hwrite hran, congrArg Nat.succ hlength⟩
    · cases h

end

/-! ## §3 Changes -/

section

variable {α : Type} {s t : Store} {path : String} {value : Option Json} {made final : α}

theorem written_eq_ok {attempt : Store × Option StateFault}
    (h : written attempt made = ⟨t, .ok final⟩) : attempt = (t, none) ∧ final = made := by
  unfold written at h
  split at h
  · cases h
    exact ⟨rfl, rfl⟩
  · cases h

/-- What the value of a model element changes: null and nothing remove it. -/
def assigned (path : String) : Option Json → Store.Change
  | none | some .null => .drop path
  | some v => .put path v

theorem text_assigned (path : String) (value : Option Json) :
    (assigned path value).text = path := by
  rcases value with _ | (_ | _) <;> rfl

theorem assign_eq_ok (h : assign s path value made = ⟨t, .ok final⟩) :
    (assigned path value).Leads s t ∧ final = made := by
  cases value with
  | none =>
    cases h
    exact ⟨rfl, rfl⟩
  | some v =>
    cases v with
    | null =>
      cases h
      exact ⟨rfl, rfl⟩
    | _ => exact written_eq_ok h

end

/-- The path of an input target in the state or in the request body. -/
def InputTarget.path? : InputTarget → Option String
  | .model path | .body path => some path
  | .header _ => none

/-- The path of an output target in the state. -/
def OutputTarget.path? : OutputTarget → Option String
  | .model path | .output path => some path
  | .decision => none

namespace Turn

/-- What an input turn changes in the state. -/
def inputChange? : Turn InputTarget → Option Store.Change
  | ⟨.model path, value⟩ => some (assigned path value)
  | _ => none

/-- What an input turn changes in the request body. -/
def bodyChange? : Turn InputTarget → Option Store.Change
  | ⟨.body path, some v⟩ => some (.put path v)
  | _ => none

/-- What an output turn changes in the state. -/
def outputChange? : Turn OutputTarget → Option Store.Change
  | ⟨.model path, value⟩ => some (assigned path value)
  | ⟨.output path, some v⟩ => some (.put path v)
  | _ => none

/-- The decision of an output turn, null for a missing element. -/
def decided? : Turn OutputTarget → Option Json
  | ⟨.decision, value⟩ => some (value.getD .null)
  | _ => none

variable {s t : Store}

theorem path?_of_inputChange? {turn : Turn InputTarget} {change : Store.Change}
    (h : turn.inputChange? = some change) : turn.target.path? = some change.text := by
  unfold inputChange? at h
  split at h
  · cases h
    rw [text_assigned]
    rfl
  · cases h

theorem path?_of_bodyChange? {turn : Turn InputTarget} {change : Store.Change}
    (h : turn.bodyChange? = some change) : turn.target.path? = some change.text := by
  unfold bodyChange? at h
  split at h
  · cases h
    rfl
  · cases h

theorem path?_of_outputChange? {turn : Turn OutputTarget} {change : Store.Change}
    (h : turn.outputChange? = some change) : turn.target.path? = some change.text := by
  unfold outputChange? at h
  split at h
  · cases h
    rw [text_assigned]
    rfl
  · cases h
    rfl
  · cases h

/-- An input turn that is written makes its change of the state and its change of the body. -/
theorem input_step {turn : Turn InputTarget} {draft final : Draft}
    (h : writeInput s draft turn.target turn.value = ⟨t, .ok final⟩) :
    s.Step turn.inputChange? t ∧ draft.body.Step turn.bodyChange? final.body := by
  obtain ⟨target, value⟩ := turn
  cases target with
  | model path =>
    obtain ⟨hchange, rfl⟩ := assign_eq_ok h
    exact ⟨.changed hchange, .still⟩
  | header name =>
    unfold writeInput at h
    rcases value with _ | (_ | _) <;> cases h <;> exact ⟨.still, .still⟩
  | body path =>
    cases value with
    | none =>
      cases h
      exact ⟨.still, .still⟩
    | some v =>
      simp only [writeInput] at h
      split at h
      · next body hset =>
        cases h
        exact ⟨.still, .changed hset⟩
      · cases h

/-- An output turn that is written makes its change of the state, and decides if its target is the
decision. -/
theorem output_step {turn : Turn OutputTarget} {decision final : Option Json}
    (h : writeOutput s decision turn.target turn.value = ⟨t, .ok final⟩) :
    s.Step turn.outputChange? t ∧ final = turn.decided?.or decision := by
  obtain ⟨target, value⟩ := turn
  cases target with
  | model path =>
    obtain ⟨hchange, rfl⟩ := assign_eq_ok h
    exact ⟨.changed hchange, rfl⟩
  | output path =>
    cases value with
    | none =>
      cases h
      exact ⟨.still, rfl⟩
    | some v =>
      obtain ⟨hset, rfl⟩ := written_eq_ok h
      exact ⟨.changed hset, rfl⟩
  | decision =>
    cases h
    exact ⟨.still, rfl⟩

end Turn

section

variable {s t : Store}

/-- Input turns are a succession of changes of the state and one of the body. -/
theorem Ran.input {turns : List (Turn InputTarget)} {draft final : Draft}
    (h : Ran writeInput s draft turns t final) :
    s.Succession (turns.filterMap Turn.inputChange?) t ∧
      draft.body.Succession (turns.filterMap Turn.bodyChange?) final.body := by
  induction h with
  | nil s made => exact ⟨.nil s, .nil made.body⟩
  | cons hturn _ ih =>
    obtain ⟨hstate, hbody⟩ := Turn.input_step hturn
    exact ⟨hstate.succession ih.1, hbody.succession ih.2⟩

/-- Output turns are a succession of changes of the state, and the last one to decide decides. -/
theorem Ran.output {turns : List (Turn OutputTarget)} {decision final : Option Json}
    (h : Ran writeOutput s decision turns t final) :
    s.Succession (turns.filterMap Turn.outputChange?) t ∧
      final = (turns.filterMap Turn.decided?).getLast?.or decision := by
  induction h with
  | nil s made => exact ⟨.nil s, rfl⟩
  | @cons s next t made grown final turn rest hturn _ ih =>
    obtain ⟨hstate, hgrown⟩ := Turn.output_step hturn
    refine ⟨hstate.succession ih.1, ?_⟩
    rw [ih.2, hgrown, List.filterMap_cons]
    cases turn.decided? with
    | none => rfl
    | some d =>
      rw [List.getLast?_cons]
      cases (rest.filterMap Turn.decided?).getLast? <;> rfl

end

/-! ## §4 Targets -/

section

variable {τ : Type} {path? : τ → Option String} {change? : Turn τ → Option Store.Change}
  {turns : List (Turn τ)}

/-- If the targets part from each other, so do the changes. -/
theorem pairwise_changes
    (hchange : ∀ turn change, change? turn = some change → path? turn.target = some change.text)
    (hapart : (turns.filterMap fun turn => path? turn.target).Pairwise Path.Apart) :
    (turns.filterMap change?).Pairwise fun c d => Path.Apart c.text d.text := by
  rw [List.pairwise_filterMap] at hapart ⊢
  refine hapart.imp fun {turn turn'} h c hc d hd => ?_
  exact h _ (hchange turn c hc) _ (hchange turn' d hd)

/-- If the targets part from each other, the target of a turn that changes nothing parts from all
changes. -/
theorem apart_of_idle
    (hchange : ∀ turn change, change? turn = some change → path? turn.target = some change.text)
    (hapart : (turns.filterMap fun turn => path? turn.target).Pairwise Path.Apart)
    {idle : Turn τ} {path : String} (hmem : idle ∈ turns) (hidle : change? idle = none)
    (hpath : path? idle.target = some path) :
    ∀ change ∈ turns.filterMap change?, Path.Apart change.text path := by
  rw [List.pairwise_filterMap] at hapart
  intro change hmem'
  obtain ⟨turn, hturn, heq⟩ := List.mem_filterMap.mp hmem'
  have hne : turn ≠ idle := by
    rintro rfl
    rw [hidle] at heq
    cases heq
  have : Std.Symm fun x y : Turn τ => ∀ b, path? x.target = some b →
      ∀ b', path? y.target = some b' → Path.Apart b b' :=
    ⟨fun x y h b hb b' hb' => (h b' hb' b hb).symm⟩
  exact hapart.forall hturn hmem hne _ (hchange turn change heq) _ hpath

end

/-- What a model element reads after a value was assigned to it: the value, and in the place of null
and nothing either of them. -/
def AssignedAs (value read : Option Json) : Prop :=
  match value with
  | none | some .null => read = none ∨ read = some .null
  | some v => read = some v

theorem assignedAs_of_leaves {τ : Type} {change? : Turn τ → Option Store.Change}
    {turns : List (Turn τ)} {t : Store} {path : String} {value : Option Json} {turn : Turn τ}
    (hleaves : ∀ change ∈ turns.filterMap change?, change.Leaves (t.get? change.text))
    (hmem : turn ∈ turns) (hchange : change? turn = some (assigned path value)) :
    AssignedAs value (t.get? path) := by
  have h := hleaves _ (List.mem_filterMap.mpr ⟨turn, hmem, hchange⟩)
  rw [text_assigned] at h
  rcases value with _ | (_ | _) <;> exact h

/-- What the targets of output turns read in the end: the state before is `s`, the state after
`t`. -/
structure OutputRead (turns : List (Turn OutputTarget)) (s t : Store) (decision : Option Json) :
    Prop where
  model : ∀ path value, ⟨.model path, value⟩ ∈ turns → AssignedAs value (t.get? path)
  output : ∀ path v, ⟨.output path, some v⟩ ∈ turns → t.get? path = some v
  /-- Nothing is written for a missing element. -/
  missing : ∀ path, ⟨.output path, none⟩ ∈ turns → Store.Kept (s.get? path) (t.get? path)
  decision : decision = (turns.filterMap Turn.decided?).getLast?

/-- What the targets of input turns read in the end, in the state `t` and in the request body. -/
structure InputRead (turns : List (Turn InputTarget)) (t request : Store) : Prop where
  model : ∀ path value, ⟨.model path, value⟩ ∈ turns → AssignedAs value (t.get? path)
  body : ∀ path v, ⟨.body path, some v⟩ ∈ turns → request.get? path = some v
  isObject : request.IsObject

theorem outputRead_of_ran {turns : List (Turn OutputTarget)} {s t : Store} {decision : Option Json}
    (h : Ran writeOutput s none turns t decision)
    (hapart : (turns.filterMap (·.target.path?)).Pairwise Path.Apart) :
    OutputRead turns s t decision := by
  obtain ⟨hchanges, hdecision⟩ := h.output
  have hleaves := hchanges.leaves (pairwise_changes (fun _ _ => Turn.path?_of_outputChange?) hapart)
  constructor
  case model =>
    exact fun path value hmem => assignedAs_of_leaves hleaves hmem rfl
  case output =>
    exact fun path v hmem => hleaves (.put path v) (List.mem_filterMap.mpr ⟨_, hmem, rfl⟩)
  case missing =>
    intro path hmem
    exact hchanges.kept
      (apart_of_idle (fun _ _ => Turn.path?_of_outputChange?) hapart hmem rfl rfl)
  case decision => rw [hdecision, Option.or_none]

theorem inputRead_of_ran {turns : List (Turn InputTarget)} {s t : Store} {final : Draft}
    (h : Ran writeInput s Draft.empty turns t final)
    (hapart : (turns.filterMap (·.target.path?)).Pairwise Path.Apart) :
    InputRead turns t final.body := by
  obtain ⟨hstate, hbody⟩ := h.input
  have hleaves := hstate.leaves (pairwise_changes (fun _ _ => Turn.path?_of_inputChange?) hapart)
  have hwrites := hbody.leaves (pairwise_changes (fun _ _ => Turn.path?_of_bodyChange?) hapart)
  constructor
  case model =>
    exact fun path value hmem => assignedAs_of_leaves hleaves hmem rfl
  case body =>
    exact fun path v hmem => hwrites (.put path v) (List.mem_filterMap.mpr ⟨_, hmem, rfl⟩)
  case isObject => exact hbody.isObject ⟨[], rfl⟩

/-- Lines do not disturb each other. When a mapping succeeds, every line has had its turn, and if
the targets of the turns part from each other, every target reads in the end what its own turn left
there. -/
theorem targets_read (plugins : Registry) (ambient : Ambient) (lines : List String) (s : Store) :
    (∀ allowDecision decision,
      (mapOutput plugins ambient allowDecision lines s).result = .ok decision →
        (outputTurns plugins ambient allowDecision lines s).length = lines.length ∧
        (((outputTurns plugins ambient allowDecision lines s).filterMap
            (·.target.path?)).Pairwise Path.Apart →
          OutputRead (outputTurns plugins ambient allowDecision lines s) s
            (mapOutput plugins ambient allowDecision lines s).state decision)) ∧
    (∀ draft, (mapInput plugins ambient lines s).result = .ok draft →
      (inputTurns plugins ambient lines s).length = lines.length ∧
      (((inputTurns plugins ambient lines s).filterMap (·.target.path?)).Pairwise Path.Apart →
        InputRead (inputTurns plugins ambient lines s) (mapInput plugins ambient lines s).state
          draft.body)) := by
  constructor
  · intro allowDecision decision hok
    obtain ⟨hran, hlength⟩ := ran_of_runLines (Outcome.eq_of_result hok)
    exact ⟨hlength, outputRead_of_ran hran⟩
  · intro draft hok
    obtain ⟨hran, hlength⟩ := ran_of_runLines (Outcome.eq_of_result hok)
    exact ⟨hlength, inputRead_of_ran hran⟩

/-- A response with an order is taken back into a state, and a draft goes into a request. -/
theorem targets_read_order :
    let s : Store := ⟨.obj [("model", .obj [("draft", .bool true)]),
      ("result", .obj [("next", .str "ship"), ("total", Json.ofNat 12)])]⟩
    let back := ["result.total -> model.order.total", "result.gone -> model.draft",
      "result.gone -> output.note", "result.next -> decision"]
    let forth := ["model.draft -> order.draft", "model.draft -> model.seen"]
    OutputRead (outputTurns Registry.empty default true back s) s
        (mapOutput Registry.empty default true back s).state (some (.str "ship")) ∧
      InputRead (inputTurns Registry.empty default forth s)
        (mapInput Registry.empty default forth s).state
        ⟨.obj [("order", .obj [("draft", .bool true)])]⟩ := by
  intro s back forth
  constructor
  · exact ((targets_read Registry.empty default back s).1 true _ (by decide +kernel)).2
      (by decide +kernel)
  · exact ((targets_read Registry.empty default forth s).2
      ⟨⟨.obj [("order", .obj [("draft", .bool true)])]⟩, []⟩ (by decide +kernel)).2
      (by decide +kernel)

end TaskFlow.Mapping
