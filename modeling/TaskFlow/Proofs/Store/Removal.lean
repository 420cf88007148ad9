/-
TaskFlow.Proofs.Store.Removal — what a removal gives and what it leaves.

A removal gives what is read at its path, for every text, and where nothing is read it does nothing.
Otherwise the container that the path ends in loses one slot (`without`): a key goes, an item
becomes null. Everything else follows from the frame of a write over what is there.

  §1 Slots  — a container that lost what was in one of its slots.
  §2 Frame  — what is read after a removal.
  §3 Stores — the same for the texts of paths.
-/
import TaskFlow.Proofs.Store.Replacement

namespace TaskFlow

namespace Json

variable {v w : Json} {front : Path} {slot : Segment}

/-! ## §1 Slots -/

/-- What is read in a slot after its content was removed. -/
def vacancy : Segment → Option Json
  | .key _ => none
  | .index _ => some .null

theorem at?_without_self (h : v.at? [slot] = some w) :
    (without slot v).at? [slot] = vacancy slot := by
  obtain ⟨name, fields, rfl, rfl, -⟩ | ⟨position, items, rfl, rfl, hitem⟩ := slot_cases h
  · simp [without, at?, vacancy]
  · have hlt := (List.getElem?_eq_some_iff.mp hitem).1
    simp [without, at?, vacancy, List.getElem?_set_self hlt]

theorem at?_without_of_ne {other : Segment} (h : v.at? [slot] = some w) (hne : other ≠ slot)
    (rest : Path) : (without slot v).at? (other :: rest) = v.at? (other :: rest) := by
  obtain ⟨name, fields, rfl, rfl, -⟩ | ⟨position, items, rfl, rfl, -⟩ := slot_cases h
  · cases other with
    | key other =>
      have hkey : other ≠ name := fun e => hne (e ▸ rfl)
      rw [without, at?, at?, Dictionary.get?_erase_of_ne hkey]
    | index other => rfl
  · cases other with
    | key other => rfl
    | index other =>
      have hindex : position ≠ other := fun e => hne (e ▸ rfl)
      rw [without, at?, at?, List.getElem?_set_ne hindex]

/-- A list that loses an item keeps its length. -/
theorem exists_list_without {items : List Json} (h : at? (.arr items) [slot] = some w) :
    ∃ left, without slot (.arr items) = .arr left ∧ left.length = items.length := by
  obtain ⟨_, _, -, hkind, -⟩ | ⟨position, _, rfl, -, -⟩ := slot_cases h
  · cases hkind
  · exact ⟨_, rfl, List.length_set⟩

/-! ## §2 Frame -/

/-- The value without the element at `front ++ [slot]`. -/
def removed (front : Path) (slot : Segment) (v : Json) : Json :=
  (write (without slot (v.standing front)) front v).value

/-- The container that a path ends in. -/
theorem exists_holder (h : v.at? (front ++ [slot]) = some w) :
    ∃ holder, v.at? front = some holder ∧ holder.at? [slot] = some w ∧
      ∀ rest, (removed front slot v).at? (front ++ rest) = (without slot holder).at? rest := by
  rw [at?_append] at h
  obtain ⟨holder, hholder, hslot⟩ := Option.bind_eq_some_iff.mp h
  refine ⟨holder, hholder, hslot, fun rest => ?_⟩
  rw [removed, standing_of_at? hholder, at?_write_self (obstacle_write_of_at? hholder _)]

theorem at?_removed_self (h : v.at? (front ++ [slot]) = some w) :
    (removed front slot v).at? (front ++ [slot]) = vacancy slot := by
  obtain ⟨holder, -, hslot, hbelow⟩ := exists_holder h
  rw [hbelow, at?_without_self hslot]

/-- Beside the path of a removal, everything is as it was. -/
theorem at?_removed_beside {other : Path} (h : v.at? (front ++ [slot]) = some w)
    (hpath : ¬(front ++ [slot]) <+: other) (hother : ¬other <+: front ++ [slot]) :
    (removed front slot v).at? other = v.at? other := by
  obtain ⟨holder, hholder, hslot, hbelow⟩ := exists_holder h
  by_cases hfront : front <+: other
  · obtain ⟨rest, rfl⟩ := hfront
    cases rest with
    | nil => exact absurd (by simp) hother
    | cons next rest =>
      have hne : next ≠ slot := by
        rintro rfl
        exact hpath (by simp)
      rw [hbelow, at?_without_of_ne hslot hne, at?_append, hholder, Option.bind_some]
  · have hother' : ¬other <+: front := fun hp => hother (hp.trans (List.prefix_append _ _))
    exact at?_write_of_at? hholder _ hfront hother'

/-- A list that is not part of what is removed keeps its length. -/
theorem exists_list_removed {list : Path} {items : List Json}
    (h : v.at? (front ++ [slot]) = some w) (hlist : v.at? list = some (.arr items))
    (hpath : ¬(front ++ [slot]) <+: list) :
    ∃ left, (removed front slot v).at? list = some (.arr left) ∧ left.length = items.length := by
  obtain ⟨holder, hholder, hslot, hbelow⟩ := exists_holder h
  by_cases hfront : front <+: list
  · obtain ⟨rest, rfl⟩ := hfront
    rw [at?_append, hholder, Option.bind_some] at hlist
    rw [hbelow]
    cases rest with
    | nil =>
      -- the list is the container that loses the item
      rw [at?_nil] at hlist
      cases hlist
      obtain ⟨left, hleft, hlength⟩ := exists_list_without hslot
      exact ⟨left, by rw [hleft, at?_nil], hlength⟩
    | cons next rest =>
      have hne : next ≠ slot := by
        rintro rfl
        exact hpath (by simp)
      exact ⟨items, by rw [at?_without_of_ne hslot hne, hlist], rfl⟩
  · exact exists_list_write hholder _ hlist hfront

theorem at?_item {list : Path} {items : List Json} (h : v.at? list = some (.arr items))
    (i : Nat) : v.at? (list ++ [.index i]) = items[i]? := by
  rw [at?_append, h, Option.bind_some, at?]
  cases items[i]? <;> simp [at?_nil]

/-- Every item stays in its place, but for the one that the path leads through. -/
theorem getElem?_removed {list : Path} {items left : List Json} {i : Nat}
    (h : v.at? (front ++ [slot]) = some w) (hlist : v.at? list = some (.arr items))
    (hleft : (removed front slot v).at? list = some (.arr left))
    (hpath : ¬(front ++ [slot]) <+: list) (hitem : ¬(list ++ [.index i]) <+: front ++ [slot]) :
    left[i]? = items[i]? := by
  have hbelow : ¬(front ++ [slot]) <+: list ++ [.index i] := by
    rw [List.prefix_concat_iff]
    rintro (heq | hprefix)
    · exact hitem (heq ▸ List.prefix_refl _)
    · exact hpath hprefix
  rw [← at?_item hleft, ← at?_item hlist, at?_removed_beside h hbelow hitem]

end Json

/-! ## §3 Stores -/

namespace Store

/-- A removal along a path that ends in a slot. -/
theorem remove?_of_read? {text : String} {front : Path} {slot : Segment}
    (hread : Path.read? text = some (front ++ [slot])) (s : Store) :
    s.remove? text = (s.get? text).map fun v => (v, ⟨s.root.removed front slot⟩) := by
  rw [remove?_eq, hread, Option.bind_some, Json.removeAt?_concat, Option.map_map,
    get?_of_read? hread]
  rfl

/-- The element that is removed is the one that is read, and without one the store is left alone. If
there is one, nothing is read in place of a key and null in place of an index; every list that is
not removed keeps its length, and its items their places, but for the one that the path leads
through; everything beside the path is read as before. -/
theorem remove_outcome (s : Store) (text : String) :
    (s.remove? text).map Prod.fst = s.get? text ∧
    (s.get? text = none → s.remove? text = none ∧ s.erase text = s) ∧
    ∀ path v, Path.read? text = some path → s.get? text = some v →
      (∀ front slot, path = front ++ [slot] →
        (s.erase text).get? text = Json.vacancy slot) ∧
      (∀ list items, s.root.at? list = some (.arr items) → ¬path <+: list →
        ∃ left, (s.erase text).root.at? list = some (.arr left) ∧
          left.length = items.length ∧
          ∀ i, ¬(list ++ [.index i]) <+: path → left[i]? = items[i]?) ∧
      ∀ beside other, Path.read? beside = some other → ¬path <+: other → ¬other <+: path →
        (s.erase text).get? beside = s.get? beside := by
  cases hread : Path.read? text with
  | none =>
    have hget : s.get? text = none := by rw [get?, hread, Option.bind_none]
    have hremove : s.remove? text = none := by rw [remove?_eq, hread, Option.bind_none]
    refine ⟨by rw [hget, hremove, Option.map_none], fun _ => ⟨hremove, ?_⟩, ?_⟩
    · rw [erase, hremove]
    · intro path v hsome
      cases hsome
  | some path =>
    obtain ⟨front, slot, rfl⟩ : ∃ front slot, path = front ++ [slot] :=
      ⟨_, _, (List.dropLast_append_getLast (Path.read?_ne_nil hread)).symm⟩
    have hremove := remove?_of_read? hread s
    refine ⟨?_, ?_, ?_⟩
    · rw [hremove, Option.map_map]
      exact Option.map_id'
    · intro hnone
      rw [hnone, Option.map_none] at hremove
      exact ⟨hremove, by rw [erase, hremove]⟩
    · rintro path v ⟨⟩ hget
      have herase : s.erase text = ⟨s.root.removed front slot⟩ := by
        rw [erase, hremove, hget, Option.map_some]
      rw [get?_of_read? hread] at hget
      rw [herase]
      refine ⟨?_, ?_, ?_⟩
      · intro front' slot' heq
        obtain ⟨rfl, hslot⟩ := List.append_inj' heq rfl
        cases hslot
        rw [get?_of_read? hread, Json.at?_removed_self hget]
      · intro list items hlist hpath
        obtain ⟨left, hleft, hlength⟩ := Json.exists_list_removed hget hlist hpath
        exact ⟨left, hleft, hlength, fun i => Json.getElem?_removed hget hlist hleft hpath⟩
      · intro beside other hbeside hpath hother
        rw [get?_of_read? hbeside, get?_of_read? hbeside]
        exact Json.at?_removed_beside hget hpath hother

end Store

end TaskFlow
