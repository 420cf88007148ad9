/-
TaskFlow.Proofs.Mapping.Redirection — data cannot redirect what a mapping line writes.

A line is expanded before it is cut at its last arrow, so a value that is put into it may bring
arrows, braces and parentheses of its own. All of them land in front of the last closing brace. If
the right side of the line has no closing brace, it stands untouched behind the last arrow, and the
target is read from it as if nothing had been expanded.

  §1 Expansion — what follows the last closing brace is copied.
  §2 Lines     — the target is read from what follows the last arrow.
  §3 Targets   — the target of a line and of its expansion.
-/
import TaskFlow.Mapping.Apply
import TaskFlow.Proofs.Attempt
import TaskFlow.Proofs.Template.Scan

namespace TaskFlow.Template

variable {tail : List Char}

/-! ## §1 Expansion -/

/-- The expansion of a text leaves its end as it is if no reference is closed there. -/
theorem expand_append (s : Store) (front : List Char) (h : '\x7d' ∉ tail) :
    (expand s (String.ofList (front ++ tail))).toList =
      (expand s (String.ofList front)).toList ++ tail := by
  simp only [expand, String.toList_ofList, fill_eq_scan]
  exact scan_append_of (scan_of_no_close h) none front

end TaskFlow.Template

namespace TaskFlow.Mapping

open TaskFlow.Text

/-! ## §2 Lines -/

/-- The arrow between the sides of a line. -/
def arrow : List Char := ['-', '>']

/-- The last arrow of a text is the one that no arrow follows. -/
theorem cutLast_arrow {after : List Char} (h : ¬arrow <:+: after) (before : List Char) :
    cutLast arrow (before ++ arrow ++ after) = some (before, after) := by
  refine cutLast_append ?_ before
  -- the second half of an arrow does not begin another
  rw [List.singleton_append, List.infix_cons_iff, not_or]
  exact ⟨by simp, h⟩

theorem readSides_eq_ok {cs before after left right : List Char}
    (hcut : cutLast arrow cs = some (before, after)) (h : readSides cs = .ok (left, right)) :
    left = trim before ∧ right = trim after := by
  unfold readSides at h
  rw [show "->".toList = arrow from rfl, hcut] at h
  dsimp only at h
  split at h
  · cases h
  · split at h
    · cases h
    · cases h
      exact ⟨rfl, rfl⟩

theorem readLine_eq_ok {τ : Type} {side : Side} {readTarget : List Char → Except LineFault τ}
    {line : String} {parsed : Line τ} (h : readLine side readTarget line = .ok parsed) :
    ∃ left right, readSides line.toList = .ok (left, right) ∧
      readSource side left = .ok parsed.source ∧ readTarget right = .ok parsed.target := by
  obtain ⟨⟨left, right⟩, hsides, h⟩ := bind_eq_ok_iff.mp h
  obtain ⟨source, hsource, h⟩ := bind_eq_ok_iff.mp h
  obtain ⟨target, htarget, heq⟩ := bind_eq_ok_iff.mp h
  cases heq
  exact ⟨left, right, hsides, hsource, htarget⟩

/-- A line whose sides can be read. -/
theorem readLine_of_sides {τ : Type} {side : Side} {readTarget : List Char → Except LineFault τ}
    {line : String} {left right : List Char} {source : Source} {target : τ}
    (hsides : readSides line.toList = .ok (left, right))
    (hsource : readSource side left = .ok source) (htarget : readTarget right = .ok target) :
    readLine side readTarget line = .ok ⟨source, target⟩ := by
  unfold readLine
  rw [hsides]
  show (do
    let source ← readSource side left
    let target ← readTarget right
    Except.ok (⟨source, target⟩ : Line τ)) = _
  rw [hsource, htarget]
  rfl

/-- The target of a line is read from what follows its last arrow. -/
theorem readTarget_of_readLine {τ : Type} {side : Side}
    {readTarget : List Char → Except LineFault τ} {line : String} {parsed : Line τ}
    {before after : List Char} (hline : line.toList = before ++ arrow ++ after)
    (hlast : ¬arrow <:+: after) (h : readLine side readTarget line = .ok parsed) :
    readTarget (trim after) = .ok parsed.target := by
  obtain ⟨left, right, hsides, -, htarget⟩ := readLine_eq_ok h
  rw [hline] at hsides
  rw [← (readSides_eq_ok (cutLast_arrow hlast before) hsides).2]
  exact htarget

/-! ## §3 Targets -/

section

variable {τ α : Type} {side : Side} {readTarget : List Char → Except LineFault τ} {line : String}
  {before after : List Char}

/-- A line and its expansion have the same target, whatever targets are read with. -/
theorem target_of_expanded (hline : line.toList = before ++ arrow ++ after)
    (hlast : ¬arrow <:+: after) (hclose : '\x7d' ∉ after) {parsed expanded : Line τ} (s : Store)
    (hparsed : readLine side readTarget line = .ok parsed)
    (hexpanded : readLine side readTarget (Template.expand s line) = .ok expanded) :
    expanded.target = parsed.target := by
  have htail : '\x7d' ∉ arrow ++ after := by simpa [arrow] using hclose
  have hcopied : (Template.expand s line).toList =
      (Template.expand s (String.ofList before)).toList ++ arrow ++ after := by
    have hsplit : line = String.ofList (before ++ (arrow ++ after)) := by
      rw [← List.append_assoc, ← hline, String.ofList_toList]
    rw [hsplit, Template.expand_append s before htail, List.append_assoc]
  have htarget := readTarget_of_readLine hline hlast hparsed
  rw [readTarget_of_readLine hcopied hlast hexpanded] at htarget
  exact Except.ok.inj htarget

/-- A line that is run fails and leaves the state alone, or writes to the target that it has as it
stands. -/
theorem runLine_eq_write (hline : line.toList = before ++ arrow ++ after)
    (hlast : ¬arrow <:+: after) (hclose : '\x7d' ∉ after) {parsed : Line τ}
    (hparsed : readLine side readTarget line = .ok parsed) (plugins : Plugin.Registry)
    (ambient : Plugin.Ambient) (write : Store → α → τ → Option Json → Outcome α) (s : Store)
    (made : α) :
    let outcome := runLine (readLine side readTarget) plugins ambient write line s made
    (∃ e, outcome = ⟨s, .error e⟩) ∨ ∃ value, outcome = write s made parsed.target value := by
  unfold runLine
  dsimp only
  split
  · exact Or.inl ⟨_, rfl⟩
  · next expanded hexpanded =>
    split
    · exact Or.inl ⟨_, rfl⟩
    · rw [target_of_expanded hline hlast hclose s hparsed hexpanded]
      exact Or.inr ⟨_, rfl⟩

end

/-- If no reference is closed behind the last arrow of a line, no state can redirect it: where the
line and its expansion can both be read, they have the same target, and to run the line is to fail
or to write to that target. -/
theorem target_unmoved {line : String} {before after : List Char}
    (hline : line.toList = before ++ arrow ++ after) (hlast : ¬arrow <:+: after)
    (hclose : '\x7d' ∉ after) (s : Store) :
    (∀ parsed, readInput line = .ok parsed →
      (∀ expanded, readInput (Template.expand s line) = .ok expanded →
        expanded.target = parsed.target) ∧
      ∀ plugins ambient draft,
        let outcome := runLine readInput plugins ambient writeInput line s draft
        (∃ e, outcome = ⟨s, .error e⟩) ∨
          ∃ value, outcome = writeInput s draft parsed.target value) ∧
    ∀ allowDecision parsed, readOutput allowDecision line = .ok parsed →
      (∀ expanded, readOutput allowDecision (Template.expand s line) = .ok expanded →
        expanded.target = parsed.target) ∧
      ∀ plugins ambient decision,
        let outcome :=
          runLine (readOutput allowDecision) plugins ambient writeOutput line s decision
        (∃ e, outcome = ⟨s, .error e⟩) ∨
          ∃ value, outcome = writeOutput s decision parsed.target value := by
  refine ⟨?_, ?_⟩
  · intro parsed hparsed
    exact ⟨fun expanded => target_of_expanded hline hlast hclose s hparsed,
      fun plugins ambient => runLine_eq_write hline hlast hclose hparsed plugins ambient _ s⟩
  · intro allowDecision parsed hparsed
    exact ⟨fun expanded => target_of_expanded hline hlast hclose s hparsed,
      fun plugins ambient => runLine_eq_write hline hlast hclose hparsed plugins ambient _ s⟩

/-- A state whose data look like a mapping line. -/
def hostile : Store :=
  ⟨.obj [("model", .obj [("from", .str "x -> model.secret")])]⟩

/-- An arrow that comes with the data is read as part of the source. -/
theorem target_unmoved_hostile :
    let line := "model.\x7bmodel.from\x7d -> model.total"
    readInput line = .ok ⟨.path "model.\x7bmodel.from\x7d", .model "model.total"⟩ ∧
      readInput (Template.expand hostile line) =
        .ok ⟨.path "model.x -> model.secret", .model "model.total"⟩ ∧
      ∀ expanded, readInput (Template.expand hostile line) = .ok expanded →
        expanded.target = .model "model.total" := by
  intro line
  have hline : line.toList =
      "model.\x7bmodel.from\x7d ".toList ++ arrow ++ " model.total".toList := by decide
  have hlast : ¬arrow <:+: " model.total".toList := by decide
  have hclose : '\x7d' ∉ " model.total".toList := by decide
  have hparsed : readInput line = .ok ⟨.path "model.\x7bmodel.from\x7d", .model "model.total"⟩ := by
    decide +kernel
  refine ⟨hparsed, by decide +kernel, ?_⟩
  exact ((target_unmoved hline hlast hclose hostile).1 _ hparsed).1

end TaskFlow.Mapping
