/-
TaskFlow.Proofs.Route.Language — reading a text one character at a time decides a pattern.

`Matches` says which texts a pattern stands for, form by form, and knows of no order in which a text
is read. `accepts` takes one character after the other and keeps the pattern of what may follow. The
two are joined by a single fact, `matches_derivative`: the derivative stands for what is left of a
text behind its first character.

  §1 Forms            — the texts of each form of pattern.
  §2 First characters — which part of a pattern the first character of a text belongs to.
  §3 Derivatives      — `matches_derivative`, and `accepts_iff_matches` from it.
-/
import TaskFlow.Route.Pattern

namespace TaskFlow.Pattern

variable {p q : Pattern} {s : List Char} {c : Char} {ranges : List (Char × Char)}

/-! ## §1 Forms -/

theorem not_matches_nothing : ¬Matches .nothing s := by
  intro h
  cases h

theorem matches_blank_iff : Matches .blank s ↔ s = [] := by
  constructor
  · intro h
    cases h
    rfl
  · intro h
    subst h
    exact .blank

theorem not_matches_oneOf_nil : ¬Matches (.oneOf ranges) [] := by
  intro h
  cases h

theorem matches_oneOf_cons_iff :
    Matches (.oneOf ranges) (c :: s) ↔ inClass ranges c = true ∧ s = [] := by
  constructor
  · intro h
    cases h with
    | oneOf hc => exact ⟨hc, rfl⟩
  · rintro ⟨hc, rfl⟩
    exact .oneOf hc

theorem matches_seq_iff :
    Matches (.seq p q) s ↔
      ∃ front back, Matches p front ∧ Matches q back ∧ s = front ++ back := by
  constructor
  · intro h
    cases h with
    | seq hp hq => exact ⟨_, _, hp, hq, rfl⟩
  · rintro ⟨front, back, hp, hq, rfl⟩
    exact .seq hp hq

theorem matches_alt_iff : Matches (.alt p q) s ↔ Matches p s ∨ Matches q s := by
  constructor
  · intro h
    cases h with
    | altLeft h => exact Or.inl h
    | altRight h => exact Or.inr h
  · intro h
    rcases h with h | h
    · exact .altLeft h
    · exact .altRight h

/-- Repetitions are pieces that the pattern stands for, any number of them. -/
theorem matches_star_iff :
    Matches (.star p) s ↔
      ∃ pieces : List (List Char), (∀ piece ∈ pieces, Matches p piece) ∧ s = pieces.flatten := by
  constructor
  · intro h
    generalize hstar : Pattern.star p = r at h
    induction h with
    | starNil => exact ⟨[], List.forall_mem_nil _, rfl⟩
    | starCons hp _ _ ih =>
      cases hstar
      obtain ⟨pieces, hpieces, rfl⟩ := ih rfl
      exact ⟨_ :: pieces, List.forall_mem_cons.mpr ⟨hp, hpieces⟩, rfl⟩
    | _ => cases hstar
  · rintro ⟨pieces, hpieces, rfl⟩
    induction pieces with
    | nil => exact .starNil
    | cons piece pieces ih =>
      obtain ⟨hpiece, hrest⟩ := List.forall_mem_cons.mp hpieces
      exact .starCons hpiece (ih hrest)

/-! ## §2 First characters -/

/-- The first character of a sequence is one of its first part, unless that part is empty. -/
theorem matches_seq_cons_iff :
    Matches (.seq p q) (c :: s) ↔
      (∃ front back, Matches p (c :: front) ∧ Matches q back ∧ s = front ++ back) ∨
        (Matches p [] ∧ Matches q (c :: s)) := by
  rw [matches_seq_iff]
  constructor
  · rintro ⟨front, back, hp, hq, heq⟩
    cases front with
    | nil =>
      simp only [List.nil_append] at heq
      exact Or.inr ⟨hp, heq ▸ hq⟩
    | cons d front =>
      simp only [List.cons_append, List.cons.injEq] at heq
      obtain ⟨rfl, rfl⟩ := heq
      exact Or.inl ⟨front, back, hp, hq, rfl⟩
  · intro h
    rcases h with ⟨front, back, hp, hq, rfl⟩ | ⟨hp, hq⟩
    · exact ⟨c :: front, back, hp, hq, rfl⟩
    · exact ⟨[], c :: s, hp, hq, rfl⟩

/-- The first character of repetitions is one of the first repetition that is not empty. -/
theorem matches_star_cons_iff :
    Matches (.star p) (c :: s) ↔
      ∃ front back, Matches p (c :: front) ∧ Matches (.star p) back ∧ s = front ++ back := by
  constructor
  · intro h
    obtain ⟨pieces, hpieces, heq⟩ := matches_star_iff.mp h
    induction pieces with
    | nil => cases heq
    | cons piece pieces ih =>
      obtain ⟨hpiece, hrest⟩ := List.forall_mem_cons.mp hpieces
      cases piece with
      | nil => exact ih hrest heq
      | cons d front =>
        simp only [List.flatten_cons, List.cons_append, List.cons.injEq] at heq
        obtain ⟨rfl, rfl⟩ := heq
        exact ⟨front, pieces.flatten, hpiece, matches_star_iff.mpr ⟨pieces, hrest, rfl⟩, rfl⟩
  · rintro ⟨front, back, hp, hstar, rfl⟩
    exact .starCons hp hstar

/-! ## §3 Derivatives -/

theorem nullable_iff : p.nullable = true ↔ Matches p [] := by
  induction p with
  | nothing => simp only [nullable, Bool.false_eq_true, not_matches_nothing]
  | blank => simp only [nullable, matches_blank_iff]
  | oneOf ranges => simp only [nullable, Bool.false_eq_true, not_matches_oneOf_nil]
  | seq p q ihp ihq => simp [nullable, matches_seq_iff, ihp, ihq]
  | alt p q ihp ihq => simp only [nullable, Bool.or_eq_true, matches_alt_iff, ihp, ihq]
  | star p ih => simp only [nullable, Matches.starNil]

theorem matches_joinSeq_iff : Matches (joinSeq p q) s ↔ Matches (.seq p q) s := by
  unfold joinSeq
  split
  · simp [matches_seq_iff, not_matches_nothing]
  · simp [matches_seq_iff, matches_blank_iff]
  · rfl

theorem matches_joinAlt_iff : Matches (joinAlt p q) s ↔ Matches (.alt p q) s := by
  unfold joinAlt
  split <;> simp [matches_alt_iff, not_matches_nothing]

/-- The derivative stands for what is left of a text behind its first character. -/
theorem matches_derivative : Matches (p.derivative c) s ↔ Matches p (c :: s) := by
  induction p generalizing s with
  | nothing => simp only [derivative, not_matches_nothing]
  | blank => simp [derivative, not_matches_nothing, matches_blank_iff]
  | oneOf ranges =>
    simp only [derivative, matches_oneOf_cons_iff]
    split
    · next hc => simp only [matches_blank_iff, hc, true_and]
    · next hc => simp only [not_matches_nothing, hc, Bool.false_eq_true, false_and]
  | alt p q ihp ihq => simp only [derivative, matches_joinAlt_iff, matches_alt_iff, ihp, ihq]
  | seq p q ihp ihq =>
    -- only an empty first part leaves the character to the second one
    simp only [derivative, matches_seq_cons_iff]
    split
    · next hnull =>
      simp only [matches_joinAlt_iff, matches_alt_iff, matches_joinSeq_iff, matches_seq_iff, ihp,
        ihq, nullable_iff.mp hnull, true_and]
    · next hnull =>
      simp only [matches_joinSeq_iff, matches_seq_iff, ihp, mt nullable_iff.mpr hnull, false_and,
        or_false]
  | star p ih =>
    simp only [derivative, matches_joinSeq_iff, matches_seq_iff, matches_star_cons_iff, ih]

/-- A text is accepted exactly if the pattern stands for it. -/
theorem accepts_iff_matches : p.accepts s = true ↔ Matches p s := by
  induction s generalizing p with
  | nil => rw [accepts, nullable_iff]
  | cons c rest ih => rw [accepts, ih, matches_derivative]

end TaskFlow.Pattern
