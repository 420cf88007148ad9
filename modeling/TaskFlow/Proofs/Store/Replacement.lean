/-
TaskFlow.Proofs.Store.Replacement — an element changed where it stands.

A change of an element that a path leads to is a write over it: `alterAt?` and `removeAt?` rebuild
the containers on their way just as `write` does (`alterAt?_eq`, `removeAt?_concat`). Such a write
meets nothing in its way and makes no list grow, so that, unlike a write in general, it leaves
everything beside its path as it was.

  §1 Changes — altering and removing as writes over what is there.
  §2 Frame   — what is read after a write over what is there.
  §3 Merging — what is merged with something else than an object.
  §4 Stores  — a merge as a write.
-/
import TaskFlow.Proofs.Store.Frame
import TaskFlow.Proofs.Store.Halves

namespace TaskFlow

namespace Json

variable {v w value : Json} {path : Path}

/-! ## §1 Changes -/

section

variable {α : Type} (change : Json → Option (α × Json))

theorem alterAt?_nil (v : Json) : alterAt? change [] v = change v := by
  cases v <;> rfl

/-- A change goes on in the slot of its first segment, and the slot is replaced. -/
theorem alterAt?_cons (segment : Segment) (rest : Path) (v : Json) :
    alterAt? change (segment :: rest) v = (v.at? [segment]).bind fun child =>
      (alterAt? change rest child).map fun found => (found.1, put found.2 segment v) := by
  cases hchild : v.at? [segment] with
  | none =>
    cases segment <;> cases v <;> simp_all [alterAt?, at?]
  | some child =>
    obtain ⟨name, fields, rfl, rfl, hfield⟩ | ⟨position, items, rfl, rfl, hitem⟩ :=
      slot_cases hchild
    · cases hfound : alterAt? change rest child <;>
        simp [alterAt?, hfield, hfound, put, asFields?]
    · have hlt := (List.getElem?_eq_some_iff.mp hitem).1
      cases hfound : alterAt? change rest child <;>
        simp [alterAt?, hitem, hfound, put, asItems?, pad_of_lt hlt]

/-- The element that a path leads to is changed and written over. -/
theorem alterAt?_eq (path : Path) (v : Json) :
    alterAt? change path v = (v.at? path).bind fun w =>
      (change w).map fun found => (found.1, (write found.2 path v).value) := by
  induction path generalizing v with
  | nil =>
    rw [alterAt?_nil, at?_nil]
    exact Option.map_id'.symm
  | cons segment rest ih =>
    rw [alterAt?_cons, at?_cons v segment rest, Option.bind_assoc]
    refine Option.bind_congr fun child hchild => ?_
    rw [ih, Option.map_bind]
    refine Option.bind_congr fun w _ => ?_
    rw [Function.comp_apply, Option.map_map]
    refine congrArg (Option.map · (change w)) (funext fun found => ?_)
    rw [write_of_free (free_of_at? hchild), standing_of_at? hchild]
    rfl

end

/-- A container without what is in one of its slots: a key goes, an item becomes null. -/
def without : Segment → Json → Json
  | .key name, .obj fields => .obj (Dictionary.erase name fields)
  | .index position, .arr items => .arr (items.set position .null)
  | _, v => v

theorem removeAt?_singleton (slot : Segment) (v : Json) :
    removeAt? [slot] v = (v.at? [slot]).map fun w => (w, without slot v) := by
  cases slot <;> cases v <;> simp [removeAt?, at?, without]

/-- A removal writes the container over itself, without the slot that its path ends with. -/
theorem removeAt?_concat (front : Path) (slot : Segment) (v : Json) :
    removeAt? (front ++ [slot]) v = (v.at? (front ++ [slot])).map fun w =>
      (w, (write (without slot (v.standing front)) front v).value) := by
  rw [← alterAt?_removeAt? (List.cons_ne_nil slot []), alterAt?_eq, at?_append, Option.map_bind]
  refine Option.bind_congr fun holder hholder => ?_
  rw [removeAt?_singleton, Option.map_map, standing_of_at? hholder]
  rfl

/-! ## §2 Frame -/

theorem obstacle_write_of_at? (h : v.at? path = some w) (value : Json) :
    (write value path v).obstacle = none := by
  induction path generalizing v with
  | nil => rfl
  | cons segment rest ih =>
    rw [at?_cons] at h
    obtain ⟨child, hchild, hrest⟩ := Option.bind_eq_some_iff.mp h
    rw [write_of_free (free_of_at? hchild), standing_of_at? hchild]
    exact ih hrest

/-- No list on the way to an element is padded: each of them has the slot that is replaced. -/
theorem not_filled_of_at? (h : v.at? path = some w) (other : Path) : ¬Filled v path other := by
  rintro ⟨front, segment, rest, slot, rfl, rfl, hpads⟩
  rw [at?_append] at h
  obtain ⟨holder, hholder, hrest⟩ := Option.bind_eq_some_iff.mp h
  rw [at?_cons] at hrest
  obtain ⟨child, hchild, -⟩ := Option.bind_eq_some_iff.mp hrest
  rw [standing_of_at? hholder] at hpads
  obtain ⟨name, fields, rfl, rfl, -⟩ | ⟨position, items, rfl, rfl, hitem⟩ := slot_cases hchild
  · exact hpads
  · have hlt := (List.getElem?_eq_some_iff.mp hitem).1
    cases slot with
    | key name => exact hpads
    | index other =>
      have hlength := hpads.2 items rfl
      have hbefore := hpads.1
      omega

/-- Beside the path, everything is as it was. -/
theorem at?_write_of_at? {other : Path} (h : v.at? path = some w) (value : Json)
    (hpath : ¬path <+: other) (hother : ¬other <+: path) :
    (write value path v).value.at? other = v.at? other :=
  (at?_write_beside (obstacle_write_of_at? h value) hpath hother).2 (not_filled_of_at? h other)

/-- A list keeps its length if it is not part of what is written over. -/
theorem exists_list_write {list : Path} {items : List Json} (h : v.at? path = some w)
    (value : Json) (hlist : v.at? list = some (.arr items)) (hbelow : ¬path <+: list) :
    ∃ left, (write value path v).value.at? list = some (.arr left) ∧
      left.length = items.length := by
  by_cases hprefix : list <+: path
  · obtain ⟨rest, rfl⟩ := hprefix
    have hwritten := (at?_write_append (obstacle_write_of_at? h value)).2 []
    rw [List.append_nil, standing_of_at? hlist, at?_nil] at hwritten
    rw [at?_append, hlist, Option.bind_some] at h
    cases rest with
    | nil => exact absurd (by simp) hbelow
    | cons segment rest =>
      rw [at?_cons] at h
      obtain ⟨child, hchild, -⟩ := Option.bind_eq_some_iff.mp h
      obtain ⟨_, _, -, hkind, -⟩ | ⟨position, _, rfl, hkind, hitem⟩ := slot_cases hchild
      · cases hkind
      · cases hkind
        have hlt := (List.getElem?_eq_some_iff.mp hitem).1
        rw [write_of_free (free_of_at? hchild), put, asItems?, Option.getD_some,
          pad_of_lt hlt] at hwritten
        exact ⟨_, hwritten, List.length_set⟩
  · refine ⟨items, ?_, rfl⟩
    rw [at?_write_of_at? h value hbelow hprefix, hlist]

/-! ## §3 Merging -/

/-- Unless two objects unite, the newer value stands alone. -/
theorem merge_of_not_both {older newer : Json}
    (h : ∀ fields others, ¬(older = .obj fields ∧ newer = .obj others)) :
    merge older newer = newer := by
  cases newer with
  | obj others =>
    cases older with
    | obj fields => exact absurd ⟨rfl, rfl⟩ (h fields others)
    | _ => rfl
  | _ => rfl

end Json

/-! ## §4 Stores -/

namespace Store

variable {s t : Store} {text : String} {path : Path} {value : Json}

theorem get?_of_read? (hread : Path.read? text = some path) (s : Store) :
    s.get? text = s.root.at? path := by
  rw [get?, hread, Option.bind_some]

/-- A written value is read at its path. -/
theorem get?_of_set (h : s.set text value = (t, none)) : t.get? text = some value := by
  unfold set at h
  split at h
  · cases h
  · next path hread =>
    rw [Prod.mk.injEq, Option.map_eq_none_iff] at h
    obtain ⟨rfl, hclear⟩ := h
    have hwritten := Json.at?_write_self hclear []
    rw [List.append_nil, Json.at?_nil] at hwritten
    rw [get?_of_read? hread, hwritten]

/-- Unless two objects unite, a merge is a write. -/
theorem merge_of_not_both {subtree : Json}
    (h : ∀ older newer, ¬(s.get? text = some (.obj older) ∧ subtree = .obj newer)) :
    s.merge subtree text = s.set text subtree := by
  unfold merge
  split
  · next older newer hget => exact absurd ⟨hget, rfl⟩ (h older newer)
  · rfl

/-- A merge writes the union over what stands at the path; null stands for nothing. -/
theorem merge_eq (s : Store) (subtree : Json) (text : String) :
    s.merge subtree text = s.set text (((s.get? text).getD .null).merge subtree) := by
  by_cases hboth : ∃ older newer, s.get? text = some (.obj older) ∧ subtree = .obj newer
  · obtain ⟨older, newer, hget, rfl⟩ := hboth
    obtain ⟨path, hread, hat⟩ := Option.bind_eq_some_iff.mp hget
    simp [merge, set, hget, hread, Json.alterAt?_eq, hat, Json.obstacle_write_of_at? hat]
  · rw [merge_of_not_both fun older newer h => hboth ⟨older, newer, h⟩, Json.merge_of_not_both]
    rintro older newer ⟨holder, rfl⟩
    cases hget : s.get? text with
    | none => simp [hget] at holder
    | some v =>
      rw [hget, Option.getD_some] at holder
      exact hboth ⟨older, newer, by rw [hget, holder], rfl⟩

end Store

end TaskFlow
