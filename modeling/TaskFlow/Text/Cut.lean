/-
TaskFlow.Text.Cut — cutting texts at marks.

  §1 Pieces — `splitOn` cuts at every occurrence of a character, `joinWith` puts it back.
  §2 Halves — `cutFirst` and `cutLast` cut once and drop the mark.
  §3 Ends   — `afterPrefix?` and `beforeSuffix?` take off a fixed beginning or end.
-/

namespace TaskFlow.Text

/-! ## §1 Pieces -/

/-- The pieces between the occurrences of a character; there is always at least one. -/
def splitOn (mark : Char) : List Char → List (List Char)
  | [] => [[]]
  | c :: rest =>
    if c = mark then [] :: splitOn mark rest
    else match splitOn mark rest with
      | piece :: pieces => (c :: piece) :: pieces
      | [] => [[c]]

/-- Pieces with a text between each two. -/
def joinWith (mark : List Char) : List (List Char) → List Char
  | [] => []
  | [piece] => piece
  | piece :: next :: pieces => piece ++ mark ++ joinWith mark (next :: pieces)

/-- `joinWith` on strings. -/
def joined (mark : String) (pieces : List String) : String :=
  String.ofList (joinWith mark.toList (pieces.map String.toList))

theorem splitOn_ne_nil (mark : Char) (cs : List Char) : splitOn mark cs ≠ [] := by
  cases cs with
  | nil => simp [splitOn]
  | cons c rest =>
    simp only [splitOn]
    split
    · simp
    · split <;> simp

/-! ## §2 Halves -/

/-- The text before the first occurrence of a character and the text after it. -/
def cutFirst (mark : Char) : List Char → Option (List Char × List Char)
  | [] => none
  | c :: rest =>
    if c = mark then some ([], rest)
    else (cutFirst mark rest).map fun (before, after) => (c :: before, after)

/-- The text before the last occurrence of `mark` and the text after it. -/
def cutLast (mark : List Char) : List Char → Option (List Char × List Char)
  | [] => none
  | c :: rest =>
    match cutLast mark rest with
    | some (before, after) => some (c :: before, after)
    | none => if mark.isPrefixOf (c :: rest) then some ([], (c :: rest).drop mark.length) else none

/-! ## §3 Ends -/

/-- What follows a fixed beginning. -/
def afterPrefix? : (start cs : List Char) → Option (List Char)
  | [], cs => some cs
  | _ :: _, [] => none
  | s :: start, c :: cs => if s = c then afterPrefix? start cs else none

/-- The text begins with `start`. -/
def startsWith (start cs : List Char) : Bool :=
  (afterPrefix? start cs).isSome

/-- What stands before a final character. -/
def beforeLast? (mark : Char) : List Char → Option (List Char)
  | [] => none
  | [c] => if c = mark then some [] else none
  | c :: d :: rest => (beforeLast? mark (d :: rest)).map (c :: ·)

theorem afterPrefix?_append (start cs : List Char) : afterPrefix? start (start ++ cs) = some cs := by
  induction start with
  | nil => rfl
  | cons s start ih => simp [afterPrefix?, ih]

theorem eq_append_of_afterPrefix? {start cs rest : List Char}
    (h : afterPrefix? start cs = some rest) : cs = start ++ rest := by
  induction start generalizing cs with
  | nil => simpa [afterPrefix?] using h
  | cons s start ih =>
    cases cs with
    | nil => simp [afterPrefix?] at h
    | cons c cs =>
      simp only [afterPrefix?] at h
      split at h
      · next heq => rw [heq, List.cons_append, ← ih h]
      · simp at h

/-- Cutting at a character loses the mark alone. -/
theorem eq_append_of_cutFirst {mark : Char} {cs before after : List Char}
    (h : cutFirst mark cs = some (before, after)) :
    cs = before ++ mark :: after ∧ mark ∉ before := by
  induction cs generalizing before with
  | nil => simp [cutFirst] at h
  | cons c rest ih =>
    simp only [cutFirst] at h
    split at h
    · next heq => cases h; simp [heq]
    · next hne =>
      obtain ⟨⟨b, a⟩, hcut, heq⟩ := Option.map_eq_some_iff.1 h
      cases heq
      have := ih hcut
      exact ⟨by rw [this.1]; rfl, by simp [Ne.symm hne, this.2]⟩

/-- Cutting at a mark loses the mark alone. -/
theorem eq_append_of_cutLast {mark cs before after : List Char}
    (h : cutLast mark cs = some (before, after)) : cs = before ++ mark ++ after := by
  induction cs generalizing before with
  | nil => cases h
  | cons c rest ih =>
    rw [cutLast] at h
    split at h
    · next front back hcut =>
      cases h
      rw [ih hcut]
      rfl
    · split at h
      · next hstart =>
        cases h
        obtain ⟨back, hback⟩ := List.isPrefixOf_iff_prefix.mp hstart
        rw [← hback, List.drop_left, List.nil_append]
      · cases h

end TaskFlow.Text
