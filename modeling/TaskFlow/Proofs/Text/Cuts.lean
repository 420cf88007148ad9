/-
TaskFlow.Proofs.Text.Cuts — where texts are cut, and what is left of them.

A printed text is read back by cutting it where its parts were joined. Each lemma says that a cut
finds the joint, and what the parts must not contain for that.

  §1 Blanks — texts that `trim` leaves alone, and blanks that it takes off others.
  §2 Pieces — texts between the occurrences of a character.
  §3 Halves — the first and the last occurrence of a mark.
  §4 Ends   — fixed beginnings and final characters.
-/
import Mathlib.Data.List.DropRight
import Mathlib.Data.List.Infix
import TaskFlow.Text.Blank
import TaskFlow.Text.Cut

namespace TaskFlow.Text

variable {c mark : Char} {cs before after : List Char}

/-! ## §1 Blanks -/

/-- The text neither begins nor ends with a blank. -/
def Tidy (cs : List Char) : Prop := trim cs = cs

instance : DecidablePred Tidy := fun cs => inferInstanceAs (Decidable (trim cs = cs))

theorem trimRight_eq_rdropWhile (cs : List Char) : trimRight cs = cs.rdropWhile isBlank := rfl

theorem trim_cons (h : isBlank c = true) (cs : List Char) : trim (c :: cs) = trim cs := by
  rw [trim, trimLeft, List.dropWhile_cons_of_pos h]
  rfl

theorem trim_concat (h : isBlank c = true) (cs : List Char) : trim (cs ++ [c]) = trim cs := by
  rw [trim, trim, trimLeft, trimLeft, List.dropWhile_append]
  split
  · next hall =>
    rw [List.isEmpty_iff.mp hall, List.dropWhile_cons_of_pos h]
    rfl
  · rw [trimRight_eq_rdropWhile, List.rdropWhile_concat_pos _ _ _ h]
    rfl

/-- Blanks around a text are taken off. -/
theorem trim_padded {front back : List Char} (hfront : ∀ c ∈ front, isBlank c = true)
    (hback : ∀ c ∈ back, isBlank c = true) (cs : List Char) :
    trim (front ++ cs ++ back) = trim cs := by
  have hleft : ∀ rest, trim (front ++ rest) = trim rest := by
    intro rest
    induction front with
    | nil => rfl
    | cons c front ih =>
      rw [List.forall_mem_cons] at hfront
      rw [List.cons_append, trim_cons hfront.1, ih hfront.2]
  rw [List.append_assoc, hleft]
  induction back using List.reverseRecOn with
  | nil => rw [List.append_nil]
  | append_singleton back c ih =>
    rw [List.forall_mem_append, List.forall_mem_singleton] at hback
    rw [← List.append_assoc, trim_concat hback.2, ih hback.1]

/-- A text is what is left of it between blanks. -/
theorem exists_padded (cs : List Char) : ∃ front back, (∀ c ∈ front, isBlank c = true) ∧
    (∀ c ∈ back, isBlank c = true) ∧ cs = front ++ trim cs ++ back := by
  refine ⟨cs.takeWhile isBlank, (trimLeft cs).rtakeWhile isBlank,
    fun c hc => List.mem_takeWhile_imp hc, fun c hc => List.mem_rtakeWhile_imp hc, ?_⟩
  rw [trim, trimRight_eq_rdropWhile, List.append_assoc, List.rdropWhile_append_rtakeWhile, trimLeft,
    List.takeWhile_append_dropWhile]

/-- What is left of a text has no blanks at its ends. -/
theorem tidy_trim (cs : List Char) : Tidy (trim cs) := by
  obtain ⟨front, back, hfront, hback, hcs⟩ := exists_padded cs
  have htrim := trim_padded hfront hback (trim cs)
  rw [← hcs] at htrim
  exact htrim.symm

/-- A tidy text does not end with blanks. -/
theorem Tidy.eq_nil_of_append {front blanks : List Char} (h : Tidy (front ++ blanks))
    (hblanks : ∀ c ∈ blanks, isBlank c = true) : blanks = [] := by
  have htrim : trim (front ++ blanks) = trim front :=
    trim_padded (List.forall_mem_nil _) hblanks front
  have hlength := length_trim_le front
  rw [← htrim, h, List.length_append] at hlength
  exact List.eq_nil_of_length_eq_zero (by omega)

/-- A text is blank if nothing is left of it. -/
theorem trim_eq_nil_iff : trim cs = [] ↔ ∀ c ∈ cs, isBlank c = true := by
  rw [trim, trimRight_eq_rdropWhile, List.rdropWhile_eq_nil_iff]
  constructor
  · intro h
    rw [← List.dropWhile_eq_nil_iff]
    cases hleft : cs.dropWhile isBlank with
    | nil => rfl
    | cons c rest =>
      have hhead := List.head_dropWhile_not isBlank (l := cs) (by simp [hleft])
      simp only [hleft, List.head_cons] at hhead
      rw [trimLeft, hleft] at h
      rw [h c List.mem_cons_self] at hhead
      cases hhead
  · intro h c hc
    exact h c ((List.dropWhile_sublist isBlank).subset hc)

theorem tidy_iff_trimLeft : Tidy cs ↔ trimLeft cs = cs ∧ trimRight cs = cs := by
  constructor
  · intro h
    have hsuffix : trimLeft cs <:+ cs := List.dropWhile_suffix isBlank
    have hprefix : trim cs <+: trimLeft cs := List.rdropWhile_prefix isBlank _
    rw [h] at hprefix
    have hleft : trimLeft cs = cs :=
      hsuffix.eq_of_length (le_antisymm hsuffix.length_le hprefix.length_le)
    refine ⟨hleft, ?_⟩
    rw [Tidy, trim, hleft] at h
    exact h
  · rintro ⟨hleft, hright⟩
    rw [Tidy, trim, hleft, hright]

/-- A text is tidy if its first and its last character are no blanks. -/
theorem tidy_iff : Tidy cs ↔
    (∀ c ∈ cs.head?, isBlank c = false) ∧ ∀ c ∈ cs.getLast?, isBlank c = false := by
  rw [tidy_iff_trimLeft, trimRight_eq_rdropWhile, List.rdropWhile_eq_self_iff, trimLeft,
    List.dropWhile_eq_self_iff]
  cases cs with
  | nil => simp
  | cons c rest => simp [List.getLast?_eq_some_getLast]

/-- A text without any blanks. -/
theorem tidy_of_forall (h : ∀ c ∈ cs, isBlank c = false) : Tidy cs :=
  tidy_iff.mpr ⟨fun c hc => h c (List.mem_of_mem_head? hc),
    fun c hc => h c (List.mem_of_getLast? hc)⟩

/-- Whatever stands between two tidy texts. -/
theorem tidy_enclosed {front back : List Char} (hfront : Tidy front) (hback : Tidy back)
    (hne : front ≠ []) (hne' : back ≠ []) (middle : List Char) :
    Tidy (front ++ middle ++ back) := by
  rw [tidy_iff] at *
  refine ⟨?_, ?_⟩
  · rw [List.append_assoc, List.head?_append_of_ne_nil _ hne]
    exact hfront.1
  · rw [List.getLast?_append_of_ne_nil _ hne']
    exact hback.2

/-! ## §2 Pieces -/

theorem splitOn_of_not_mem {mark : Char} {cs : List Char} (h : mark ∉ cs) :
    splitOn mark cs = [cs] := by
  induction cs with
  | nil => rfl
  | cons c rest ih =>
    rw [List.mem_cons, not_or] at h
    rw [splitOn, if_neg (Ne.symm h.1), ih h.2]

theorem splitOn_append_mark {mark : Char} {piece : List Char} (h : mark ∉ piece)
    (rest : List Char) : splitOn mark (piece ++ mark :: rest) = piece :: splitOn mark rest := by
  induction piece with
  | nil => simp [splitOn]
  | cons c piece ih =>
    have hc : c ≠ mark := fun e => h (e ▸ List.mem_cons_self)
    have hpiece : mark ∉ piece := fun hm => h (List.mem_cons_of_mem _ hm)
    rw [List.cons_append, splitOn, if_neg hc, ih hpiece]

/-- At any occurrence of its character, a text may be cut first, and each half after. -/
theorem splitOn_append (mark : Char) (before after : List Char) :
    splitOn mark (before ++ mark :: after) = splitOn mark before ++ splitOn mark after := by
  induction before with
  | nil => simp [splitOn]
  | cons c rest ih =>
    by_cases hc : c = mark
    · simp [splitOn, hc, ih]
    · obtain ⟨piece, pieces, hpieces⟩ := List.exists_cons_of_ne_nil (splitOn_ne_nil mark rest)
      simp [splitOn, hc, ih, hpieces]

/-! ## §3 Halves -/

theorem cutFirst_eq_none_iff : cutFirst mark cs = none ↔ mark ∉ cs := by
  induction cs with
  | nil => simp [cutFirst]
  | cons c rest ih =>
    by_cases h : c = mark
    · simp [cutFirst, h]
    · simp [cutFirst, h, ih, Ne.symm h]

/-- The first occurrence of a character is behind a text without it. -/
theorem cutFirst_append (h : mark ∉ before) (after : List Char) :
    cutFirst mark (before ++ mark :: after) = some (before, after) := by
  induction before with
  | nil => simp [cutFirst]
  | cons c rest ih =>
    rw [List.mem_cons, not_or] at h
    simp [cutFirst, Ne.symm h.1, ih h.2]

/-- The first piece of a text ends at the first mark, and what is behind it is cut likewise. -/
theorem splitOn_eq_cons {mark : Char} {cs piece : List Char} {pieces : List (List Char)}
    (h : splitOn mark cs = piece :: pieces) :
    mark ∉ piece ∧ (cs = piece ∧ pieces = [] ∨
      ∃ after, cs = piece ++ mark :: after ∧ splitOn mark after = pieces) := by
  cases hcut : cutFirst mark cs with
  | none =>
    have hmark := cutFirst_eq_none_iff.mp hcut
    rw [splitOn_of_not_mem hmark] at h
    cases h
    exact ⟨hmark, Or.inl ⟨rfl, rfl⟩⟩
  | some cut =>
    obtain ⟨before, after⟩ := cut
    obtain ⟨rfl, hmark⟩ := eq_append_of_cutFirst hcut
    rw [splitOn_append_mark hmark] at h
    cases h
    exact ⟨hmark, Or.inr ⟨after, rfl, rfl⟩⟩

/-- The pieces of a text are those without a mark that give the text when a mark is put in front of
each but the first. -/
theorem splitOn_eq_cons_iff {mark : Char} {cs piece : List Char} {pieces : List (List Char)} :
    splitOn mark cs = piece :: pieces ↔
      cs = piece ++ pieces.flatMap (mark :: ·) ∧ mark ∉ piece ∧ ∀ other ∈ pieces, mark ∉ other := by
  induction pieces generalizing cs piece with
  | nil =>
    simp only [List.flatMap_nil, List.append_nil, List.not_mem_nil, false_implies, implies_true,
      and_true]
    constructor
    · intro h
      obtain ⟨hmark, ⟨hcs, -⟩ | ⟨after, -, hafter⟩⟩ := splitOn_eq_cons h
      · exact ⟨hcs, hmark⟩
      · exact absurd hafter (splitOn_ne_nil mark after)
    · rintro ⟨rfl, hmark⟩
      exact splitOn_of_not_mem hmark
  | cons next pieces ih =>
    simp only [List.flatMap_cons, List.cons_append, List.forall_mem_cons]
    constructor
    · intro h
      obtain ⟨hmark, ⟨-, hnil⟩ | ⟨after, rfl, hafter⟩⟩ := splitOn_eq_cons h
      · cases hnil
      · obtain ⟨rfl, hnext, hpieces⟩ := ih.mp hafter
        exact ⟨rfl, hmark, hnext, hpieces⟩
    · rintro ⟨rfl, hmark, hnext, hpieces⟩
      rw [splitOn_append_mark hmark, ih.mpr ⟨rfl, hnext, hpieces⟩]

/-- Cutting loses no character but the mark. -/
theorem exists_mem_splitOn {mark : Char} {cs : List Char} (h : c ∈ cs) (hne : c ≠ mark) :
    ∃ piece ∈ splitOn mark cs, c ∈ piece := by
  obtain ⟨first, others, hsplit⟩ := List.exists_cons_of_ne_nil (splitOn_ne_nil mark cs)
  rw [hsplit]
  rw [(splitOn_eq_cons_iff.mp hsplit).1, List.mem_append, List.mem_flatMap] at h
  rcases h with hfirst | ⟨piece, hmem, hpiece⟩
  · exact ⟨first, List.mem_cons_self, hfirst⟩
  · exact ⟨piece, List.mem_cons_of_mem _ hmem, (List.mem_cons.mp hpiece).resolve_left hne⟩

/-- A text without a mark is not cut. -/
theorem cutLast_eq_none {mark cs : List Char} (h : ¬mark <:+: cs) : cutLast mark cs = none := by
  induction cs with
  | nil => rfl
  | cons c rest ih =>
    have hrest : ¬mark <:+: rest := fun hin => h (hin.trans (List.suffix_cons c rest).isInfix)
    have hstart : mark.isPrefixOf (c :: rest) = false := by
      rw [← Bool.not_eq_true, List.isPrefixOf_iff_prefix]
      exact fun hprefix => h hprefix.isInfix
    simp [cutLast, ih hrest, hstart]

theorem not_mem_of_cutLast (h : cutLast [mark] cs = none) : mark ∉ cs := by
  induction cs with
  | nil => simp
  | cons c rest ih =>
    rw [cutLast] at h
    split at h
    · cases h
    · next hrest =>
      have hc : ¬[mark] <+: c :: rest := by
        intro hprefix
        rw [if_pos (List.isPrefixOf_iff_prefix.mpr hprefix)] at h
        cases h
      simpa [List.cons_prefix_cons, ih hrest] using hc

/-- The last occurrence of a mark is the one behind which it does not occur again. -/
theorem cutLast_append {m : Char} {mark : List Char} (h : ¬(m :: mark) <:+: mark ++ after)
    (before : List Char) :
    cutLast (m :: mark) (before ++ (m :: mark) ++ after) = some (before, after) := by
  induction before with
  | nil =>
    -- no later mark, not even one that begins inside this one
    have hnone := cutLast_eq_none h
    have hstart : (m :: mark).isPrefixOf (m :: (mark ++ after)) = true :=
      List.isPrefixOf_iff_prefix.mpr (List.prefix_append (m :: mark) after)
    simp [cutLast, hnone, hstart]
  | cons c rest ih =>
    simp only [List.append_assoc, List.cons_append] at ih ⊢
    rw [cutLast, ih]

/-! ## §4 Ends -/

theorem afterPrefix?_eq_none {start cs : List Char} (h : ¬start <+: cs) :
    afterPrefix? start cs = none := by
  cases hafter : afterPrefix? start cs with
  | none => rfl
  | some rest => exact absurd ⟨rest, (eq_append_of_afterPrefix? hafter).symm⟩ h

theorem startsWith_iff {start cs : List Char} : startsWith start cs = true ↔ start <+: cs := by
  rw [startsWith, Option.isSome_iff_exists]
  constructor
  · rintro ⟨rest, hafter⟩
    exact ⟨rest, (eq_append_of_afterPrefix? hafter).symm⟩
  · rintro ⟨rest, rfl⟩
    exact ⟨rest, afterPrefix?_append start rest⟩

theorem startsWith_eq_false {start cs : List Char} (h : ¬start <+: cs) :
    startsWith start cs = false := by
  rw [← Bool.not_eq_true, startsWith_iff]
  exact h

theorem beforeLast?_concat (mark : Char) (cs : List Char) :
    beforeLast? mark (cs ++ [mark]) = some cs := by
  induction cs with
  | nil => simp [beforeLast?]
  | cons c rest ih =>
    cases rest with
    | nil => simp [beforeLast?]
    | cons d rest =>
      simp only [List.cons_append] at ih ⊢
      rw [beforeLast?, ih]
      rfl

/-- A final character is found only at the end. -/
theorem eq_concat_of_beforeLast? (h : beforeLast? mark cs = some before) :
    cs = before ++ [mark] := by
  induction cs generalizing before with
  | nil => cases h
  | cons c rest ih =>
    cases rest with
    | nil =>
      simp only [beforeLast?] at h
      split at h
      · next heq =>
        cases h
        rw [heq]
        rfl
      · cases h
    | cons d rest =>
      obtain ⟨front, hfront, rfl⟩ := Option.map_eq_some_iff.mp h
      rw [ih hfront]
      rfl

end TaskFlow.Text
