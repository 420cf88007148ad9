/-
TaskFlow.Proofs.Mapping.Order — mapping lines keep the order of keys.

What a line writes is a constant, an element of the state, perhaps converted, or the result of a
plugin. Constants and conversions are scalars, elements are ordered because the state is, and
results because the plugins keep the order of keys. So a line that starts from an ordered state
leaves one, whether it succeeds or not, and the request body that lines build is ordered as well.

  §1 Sources  — the constants of a line that can be read are scalars.
  §2 Values   — the value of a source is ordered.
  §3 Targets  — `Outcome.Ordered`: the state and what was made of it; the writes of either side.
  §4 Lines    — one line, and any number of them.
  §5 Mappings — the mapping of either side.
-/
import TaskFlow.Proofs.Mapping.Redirection
import TaskFlow.Proofs.Plugin.Order
import TaskFlow.Proofs.Store.Order

namespace TaskFlow.Mapping

open TaskFlow TaskFlow.Plugin

/-! ## §1 Sources -/

/-- A constant is ordered; nothing is known of the element at a path yet. -/
def Argument.Ordered : Argument → Prop
  | .constant value => value.Ordered
  | .path _ => True

/-- The constants of the source are ordered. -/
def Source.Ordered : Source → Prop
  | .constant value => value.Ordered
  | .path _ | .typed _ _ => True
  | .call _ args => ∀ arg ∈ args, arg.Ordered

theorem ordered_of_readWhole {inner : List Char} {v : Json} (h : readWhole inner = .ok v) :
    v.Ordered := by
  unfold readWhole at h
  split at h
  · cases h
    exact .num _
  · cases h

theorem ordered_of_readFloat {inner : List Char} {v : Json} (h : readFloat inner = .ok v) :
    v.Ordered := by
  unfold readFloat at h
  split at h
  · cases h
    exact .num _
  · cases h

theorem ordered_of_constant? {cs : List Char} {v : Json} (h : constant? cs = some (.ok v)) :
    v.Ordered := by
  obtain ⟨opened, -, h⟩ := Option.bind_eq_some_iff.mp h
  obtain ⟨⟨kind, inner⟩, -, h⟩ := Option.bind_eq_some_iff.mp h
  dsimp only at h
  unfold ofKind? at h
  split at h
  · cases h
    exact .str _
  · exact ordered_of_readWhole (Option.some.inj h)
  · exact ordered_of_readWhole (Option.some.inj h)
  · exact ordered_of_readFloat (Option.some.inj h)
  · exact ordered_of_readFloat (Option.some.inj h)
  · cases h
    exact .bool _
  · cases h

theorem ordered_of_readArgument {cs : List Char} {arg : Argument} (h : readArgument cs = .ok arg) :
    arg.Ordered := by
  unfold readArgument at h
  split at h
  · next attempt hconstant =>
    obtain ⟨v, rfl, rfl⟩ := map_eq_ok_iff.mp h
    exact ordered_of_constant? hconstant
  · obtain ⟨path, -, rfl⟩ := map_eq_ok_iff.mp h
    exact True.intro

theorem ordered_of_readCall {cs : List Char} {source : Source} (h : readCall cs = .ok source) :
    source.Ordered := by
  unfold readCall at h
  split at h
  · cases h
  · split at h
    · cases h
    · obtain ⟨args, hargs, rfl⟩ := map_eq_ok_iff.mp h
      unfold readArguments at hargs
      split at hargs
      · cases hargs
        exact fun _ hmem => absurd hmem List.not_mem_nil
      · intro arg hmem
        obtain ⟨piece, -, hpiece⟩ := exists_of_mem_mapM hargs hmem
        exact ordered_of_readArgument hpiece

theorem ordered_of_readModelSource {cs : List Char} {source : Source}
    (h : readModelSource cs = .ok source) : source.Ordered := by
  unfold readModelSource at h
  split at h
  · obtain ⟨path, -, rfl⟩ := map_eq_ok_iff.mp h
    exact True.intro
  · obtain ⟨path, -, h⟩ := bind_eq_ok_iff.mp h
    obtain ⟨conversion, -, h⟩ := bind_eq_ok_iff.mp h
    cases h
    exact True.intro

theorem ordered_of_readSource {side : Side} {cs : List Char} {source : Source}
    (h : readSource side cs = .ok source) : source.Ordered := by
  unfold readSource at h
  split at h
  · exact ordered_of_readCall h
  · split at h
    · next attempt hconstant =>
      obtain ⟨v, rfl, rfl⟩ := map_eq_ok_iff.mp h
      exact ordered_of_constant? hconstant
    · split at h
      · cases h
      · split at h
        · exact ordered_of_readModelSource h
        · split at h
          · obtain ⟨path, -, rfl⟩ := map_eq_ok_iff.mp h
            exact True.intro
          · cases h

/-! ## §2 Values -/

section

variable {plugins : Registry} {ambient : Ambient} {s : Store} {source : Source}

theorem ordered_of_evaluateArgument {arg : Argument} (hs : s.Ordered) (harg : arg.Ordered) :
    (evaluateArgument s arg).Ordered := by
  cases arg with
  | constant value => exact Value.ordered_ofJson harg
  | path path =>
    rw [evaluateArgument]
    cases hget : s.get? path with
    | none => exact .null
    | some v => exact Value.ordered_ofJson (hs.of_get? hget)

theorem ordered_of_converted? {supply : Supply} {v w : Json} {conversion : Conversion}
    (h : converted? supply v conversion = some w) : w.Ordered := by
  cases conversion with
  | text | uuid =>
    cases h
    exact .str _
  | boolean | negate =>
    cases h
    exact .bool _
  | int | long =>
    obtain ⟨n, -, rfl⟩ := Option.map_eq_some_iff.mp h
    exact .num _
  | float | double =>
    obtain ⟨x, -, rfl⟩ := Option.map_eq_some_iff.mp h
    exact .num _
  | length => exact Option.some.inj h ▸ Json.ordered_ofNat _
  | substring start stop =>
    obtain ⟨text, -, rfl⟩ := Option.map_eq_some_iff.mp h
    exact .str _

/-- A conversion gives a scalar, or the element as it is. -/
theorem ordered_of_convert {supply : Supply} {conversion : Conversion} {element : Option Json}
    {w : Json} (helement : ∀ v ∈ element, v.Ordered)
    (h : convert supply conversion element = some w) : w.Ordered := by
  unfold convert at h
  split at h
  · next v =>
    cases h
    cases hconverted : converted? supply v conversion with
    | none => exact helement v rfl
    | some w => exact ordered_of_converted? hconverted
  · split at h
    · cases h
      exact .str _
    · exact Option.some.inj h ▸ Json.ordered_ofNat 0
    · cases h

/-- A source whose constants are ordered has an ordered value. -/
theorem ordered_of_evaluate (hplugins : plugins.KeepsOrder) (hs : s.Ordered)
    (hsource : source.Ordered) {value : Option Json}
    (h : evaluate plugins ambient s source = .ok value) : ∀ v ∈ value, v.Ordered := by
  intro v hv
  unfold evaluate at h
  split at h
  · cases h
    cases hv
    exact hsource
  · cases h
    exact hs.of_get? hv
  · cases h
    exact ordered_of_convert (fun v hv => hs.of_get? hv) hv
  · next name args =>
    split at h
    · next result hresult =>
      cases h
      cases hv
      have hargs : ∀ v ∈ args.map (evaluateArgument s), v.Ordered :=
        List.forall_mem_map.mpr fun arg harg => ordered_of_evaluateArgument hs (hsource arg harg)
      exact Value.ordered_toJson (hplugins.invoke ambient name hargs result hresult)
    · cases h

end

/-! ## §3 Targets -/

/-- The state is ordered, and what was made of it, if anything, is as it should be. -/
structure Outcome.Ordered {α : Type} (Made : α → Prop) (outcome : Outcome α) : Prop where
  state : outcome.state.Ordered
  made : ∀ a, outcome.result = .ok a → Made a

/-- The body is ordered, and so are the headers. -/
structure Draft.Ordered (draft : Draft) : Prop where
  body : draft.body.Ordered
  headers : Dictionary.Sorted draft.headers

theorem Draft.ordered_empty : Draft.empty.Ordered := ⟨Store.ordered_empty, .nil⟩

section

variable {α : Type} {Made : α → Prop} {s : Store} {made : α} {value : Option Json} {path : String}

theorem ordered_unchanged (hs : s.Ordered) (hmade : Made made) :
    Outcome.Ordered Made ⟨s, .ok made⟩ := by
  refine ⟨hs, ?_⟩
  intro a ha
  exact Except.ok.inj ha ▸ hmade

theorem ordered_failed (hs : s.Ordered) (e : Error) : Outcome.Ordered Made ⟨s, .error e⟩ := by
  refine ⟨hs, ?_⟩
  intro a ha
  cases ha

theorem ordered_written (hs : s.Ordered) (path : String) {v : Json} (hv : v.Ordered)
    (hmade : Made made) : (written (s.set path v) made).Ordered Made := by
  have hset := Store.ordered_set hs path hv
  unfold written
  split
  · next heq =>
    rw [heq] at hset
    exact ordered_unchanged hset hmade
  · next heq =>
    rw [heq] at hset
    exact ordered_failed hset _

theorem ordered_assign (hs : s.Ordered) (path : String) (hvalue : ∀ v ∈ value, v.Ordered)
    (hmade : Made made) : (assign s path value made).Ordered Made := by
  unfold assign
  split
  · exact ordered_unchanged (Store.ordered_erase hs path) hmade
  · exact ordered_unchanged (Store.ordered_erase hs path) hmade
  · next v _ => exact ordered_written hs path (hvalue v rfl) hmade

end

theorem ordered_writeInput {s : Store} {draft : Draft} {value : Option Json} (hs : s.Ordered)
    (hdraft : draft.Ordered) (target : InputTarget) (hvalue : ∀ v ∈ value, v.Ordered) :
    (writeInput s draft target value).Ordered Draft.Ordered := by
  unfold writeInput
  split
  · exact ordered_assign hs _ hvalue hdraft
  · exact ordered_unchanged hs hdraft
  · exact ordered_unchanged hs hdraft
  · exact ordered_unchanged hs ⟨hdraft.body, Dictionary.sorted_insert hdraft.headers _ _⟩
  · exact ordered_unchanged hs hdraft
  · next path v =>
    have hbody := Store.ordered_set hdraft.body path (hvalue v rfl)
    split
    · next heq =>
      rw [heq] at hbody
      exact ordered_unchanged hs ⟨hbody, hdraft.headers⟩
    · exact ordered_failed hs _

theorem ordered_writeOutput {s : Store} {decision value : Option Json} (hs : s.Ordered)
    (hdecision : ∀ v ∈ decision, v.Ordered) (target : OutputTarget)
    (hvalue : ∀ v ∈ value, v.Ordered) :
    (writeOutput s decision target value).Ordered fun decision => ∀ v ∈ decision, v.Ordered := by
  unfold writeOutput
  split
  · exact ordered_assign hs _ hvalue hdecision
  · exact ordered_unchanged hs hdecision
  · next path v => exact ordered_written hs path (hvalue v rfl) hdecision
  · refine ordered_unchanged hs ?_
    rintro _ ⟨⟩
    cases value with
    | none => exact .null
    | some v => exact hvalue v rfl

/-! ## §4 Lines -/

section

variable {τ α : Type} {Made : α → Prop} {plugins : Registry} {s : Store} {made : α}

/-- A line keeps the order if its write does. -/
theorem ordered_runLine (hplugins : plugins.KeepsOrder) {side : Side}
    {readTarget : List Char → Except LineFault τ} {write : Store → α → τ → Option Json → Outcome α}
    (hwrite : ∀ {s made value}, s.Ordered → Made made → ∀ target, (∀ v ∈ value, v.Ordered) →
      (write s made target value).Ordered Made)
    (ambient : Ambient) (line : String) (hs : s.Ordered) (hmade : Made made) :
    (runLine (readLine side readTarget) plugins ambient write line s made).Ordered Made := by
  unfold runLine
  dsimp only
  split
  · exact ordered_failed hs _
  · next parsed hread =>
    obtain ⟨left, right, -, hsource, -⟩ := readLine_eq_ok hread
    split
    · exact ordered_failed hs _
    · next value hvalue =>
      have hordered := ordered_of_readSource hsource
      exact hwrite hs hmade _ (ordered_of_evaluate hplugins hs hordered hvalue)

/-- Lines that keep the order one by one keep it together, also when one of them fails. -/
theorem ordered_runLines {run : Nat → String → Store → α → Outcome α}
    (hrun : ∀ n line {s made}, s.Ordered → Made made → (run n line s made).Ordered Made)
    (lines : List String) (n : Nat) (hs : s.Ordered) (hmade : Made made) :
    (runLines run n lines s made).Ordered Made := by
  induction lines generalizing n s made with
  | nil => exact ordered_unchanged hs hmade
  | cons line rest ih =>
    have hline := hrun n line hs hmade
    unfold runLines
    split
    · next next grown hok =>
      rw [hok] at hline
      exact ih (n + 1) hline.state (hline.made grown rfl)
    · next next e herror =>
      rw [herror] at hline
      exact ordered_failed hline.state e

end

/-! ## §5 Mappings -/

section

variable {plugins : Registry} {s : Store}

theorem ordered_mapInput (hplugins : plugins.KeepsOrder) (ambient : Ambient) (lines : List String)
    (hs : s.Ordered) : (mapInput plugins ambient lines s).Ordered Draft.Ordered :=
  ordered_runLines (fun _ line _ _ hs hdraft =>
    ordered_runLine hplugins ordered_writeInput _ line hs hdraft) lines 0 hs Draft.ordered_empty

theorem ordered_mapOutput (hplugins : plugins.KeepsOrder) (ambient : Ambient)
    (allowDecision : Bool) (lines : List String) (hs : s.Ordered) :
    (mapOutput plugins ambient allowDecision lines s).Ordered fun decision =>
      ∀ v ∈ decision, v.Ordered :=
  ordered_runLines (fun _ line _ _ hs hdecision =>
    ordered_runLine hplugins ordered_writeOutput _ line hs hdecision) lines 0 hs (by rintro _ ⟨⟩)

end

end TaskFlow.Mapping
