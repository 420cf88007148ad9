/-
TaskFlow.Proofs.Store.Halves — the text of a path in two halves.

A removal cuts the text of its path at the last dot and reads each half for itself: the front leads
to an element, and from that element the rest is removed. A dot stands between two parts of a path
only, so both halves together are read as the whole text is, and a removal is one along the whole
path (`Store.remove?_eq`).

  §1 Reading  — a text in two halves is read half by half.
  §2 Removing — removing behind the first part of a path.
  §3 Stores   — the same for the text of a path.
-/
import TaskFlow.Proofs.Text.Cuts
import TaskFlow.Store

namespace TaskFlow

open TaskFlow.Text

/-! ## §1 Reading -/

namespace Path

/-- A part between dots starts with a key. -/
theorem readPart_eq_cons {part : List Char} {path : Path} (h : readPart part = some path) :
    ∃ name rest, path = .key name :: rest := by
  unfold readPart at h
  dsimp only at h
  split at h
  · cases h
  · obtain ⟨indexes, -, hpath⟩ := Option.bind_eq_some_iff.mp h
    exact ⟨_, _, (Option.some.inj hpath).symm⟩

theorem readParts_append (front back : List (List Char)) :
    readParts (front ++ back) =
      (readParts front).bind fun first => (readParts back).map fun rest => first ++ rest := by
  induction front with
  | nil => cases h : readParts back <;> simp [readParts, h]
  | cons part front ih =>
    cases hpart : readPart part with
    | none => simp [readParts, hpart]
    | some head =>
      cases hfront : readParts front with
      | none => simp [readParts, hpart, ih, hfront]
      | some first => cases h : readParts back <;> simp [readParts, hpart, ih, hfront, h]

/-- The two halves at a dot spell the path together. -/
theorem read?_halves (front back : List Char) :
    read? (String.ofList (front ++ '.' :: back)) =
      (read? (String.ofList front)).bind fun first =>
        (read? (String.ofList back)).map fun rest => first ++ rest := by
  simp only [read?, String.toList_ofList]
  rw [splitOn_append, readParts_append]

/-- A path that is spelt is never empty. -/
theorem read?_ne_nil {text : String} {path : Path} (h : read? text = some path) : path ≠ [] := by
  obtain ⟨part, parts, hparts⟩ := List.exists_cons_of_ne_nil (splitOn_ne_nil '.' text.toList)
  rw [read?, hparts] at h
  simp only [readParts, Option.bind_eq_bind, Option.bind_eq_some_iff] at h
  obtain ⟨head, hhead, tail, -, hpath⟩ := h
  obtain ⟨name, rest, rfl⟩ := readPart_eq_cons hhead
  cases hpath
  exact List.cons_ne_nil _ _

end Path

/-! ## §2 Removing -/

/-- What is removed from the element at `front` is removed behind `front`. -/
theorem Json.alterAt?_removeAt? {back : Path} (hback : back ≠ []) (front : Path) (v : Json) :
    Json.alterAt? (Json.removeAt? back) front v = Json.removeAt? (front ++ back) v := by
  induction front generalizing v with
  | nil => cases v <;> rfl
  | cons segment front ih =>
    obtain ⟨next, rest, hnext⟩ : ∃ next rest, front ++ back = next :: rest :=
      List.exists_cons_of_ne_nil (List.append_ne_nil_of_right_ne_nil front hback)
    rw [List.cons_append, hnext]
    cases segment with
    | key name => cases v <;> simp [Json.alterAt?, Json.removeAt?, ih, hnext]
    | index position => cases v <;> simp [Json.alterAt?, Json.removeAt?, ih, hnext]

/-! ## §3 Stores -/

/-- A removal goes along the path that the whole text spells. -/
theorem Store.remove?_eq (s : Store) (text : String) :
    s.remove? text = (Path.read? text).bind fun path =>
      (Json.removeAt? path s.root).map fun found => (found.1, ⟨found.2⟩) := by
  unfold remove?
  split
  · next front back hcut =>
    have htext : text = String.ofList (front ++ '.' :: back) := by
      rw [← String.ofList_toList (s := text), eq_append_of_cutLast hcut, List.append_assoc,
        List.singleton_append]
    rw [htext, Path.read?_halves]
    cases hfront : Path.read? (String.ofList front) with
    | none => cases Path.read? (String.ofList back) <;> rfl
    | some first =>
      cases hback : Path.read? (String.ofList back) with
      | none => rfl
      | some rest =>
        rw [Option.bind_some, Option.map_some, Option.bind_some,
          ← Json.alterAt?_removeAt? (Path.read?_ne_nil hback)]
        cases hfound : Json.alterAt? (Json.removeAt? rest) first s.root <;> simp [hfound]
  · cases Path.read? text with
    | none => rfl
    | some path => cases hfound : Json.removeAt? path s.root <;> simp [hfound]

end TaskFlow
