/-
TaskFlow.Proofs.Store.Order — ordered values stay ordered in a store.

Writing, removing and merging keep the fields of every object in order, also where they fail
half-way. In an ordered value, writing what already stands at a path changes nothing at all, and not
only nothing that can be read.

  §1 Slots  — the elements of an ordered value, and what replaces them.
  §2 Writes — `ordered_write`; `write_self`.
  §3 Others — removing and merging.
  §4 Stores — `Store.Ordered`, kept by every operation.
-/
import TaskFlow.Proofs.Attempt
import TaskFlow.Proofs.Json.Order
import TaskFlow.Proofs.Store.Replacement

namespace TaskFlow

namespace Json

variable {v value : Json} {segment : Segment} {path : Path}

/-! ## §1 Slots -/

theorem Ordered.of_asFields? {fields : List (String × Json)} (hv : v.Ordered)
    (h : asFields? v = some fields) : Ordered (.obj fields) := by
  rcases asFields?_eq_some_iff.mp h with rfl | ⟨-, rfl⟩
  · exact hv
  · exact ordered_empty

theorem Ordered.of_asItems? {items : List Json} (hv : v.Ordered)
    (h : asItems? v = some items) : Ordered (.arr items) := by
  rcases asItems?_eq_some_iff.mp h with rfl | ⟨-, rfl⟩
  · exact hv
  · exact ordered_nil

theorem Ordered.at? {w : Json} (hv : v.Ordered) (h : v.at? path = some w) : w.Ordered := by
  induction path generalizing v with
  | nil =>
    rw [at?_nil] at h
    cases h
    exact hv
  | cons segment path ih =>
    rw [at?_cons] at h
    obtain ⟨child, hchild, hw⟩ := Option.bind_eq_some_iff.mp h
    obtain ⟨name, fields, -, rfl, hfield⟩ | ⟨position, items, -, rfl, hitem⟩ := slot_cases hchild
    · exact ih (hv.field (Dictionary.mem_of_get? hfield)) hw
    · exact ih (hv.item (List.mem_of_getElem? hitem)) hw

theorem Ordered.standing (hv : v.Ordered) (path : Path) : (v.standing path).Ordered := by
  rw [Json.standing]
  cases h : v.at? path with
  | none => exact .null
  | some w => exact hv.at? h

theorem Ordered.put (hv : v.Ordered) (hvalue : value.Ordered) (hfree : Free v segment) :
    (put value segment v).Ordered := by
  cases segment with
  | key name =>
    obtain ⟨fields, hfields⟩ := hfree.exists_fields
    rw [Json.put, hfields, Option.getD_some]
    exact (hv.of_asFields? hfields).insert name hvalue
  | index position =>
    obtain ⟨items, hitems, -⟩ := hfree.exists_items
    rw [Json.put, hitems, Option.getD_some]
    have hpad : Ordered (.arr (pad items position)) := by
      refine .arr fun item hmem => ?_
      rcases List.mem_append.mp hmem with hmem | hmem
      · exact (hv.of_asItems? hitems).item hmem
      · rw [List.eq_of_mem_replicate hmem]
        exact .null
    exact hpad.set position hvalue

/-! ## §2 Writes -/

/-- A write keeps a value ordered, also a write that fails. -/
theorem ordered_write (hvalue : value.Ordered) (path : Path) (hv : v.Ordered) :
    (write value path v).value.Ordered := by
  induction path generalizing v with
  | nil => exact hvalue
  | cons segment path ih =>
    by_cases hfree : Free v segment
    · rw [write_of_free hfree]
      exact hv.put (ih (hv.standing [segment])) hfree
    · obtain ⟨o, ho⟩ := not_forall_not.mp hfree
      rw [write_of_blocks ho]
      cases ho with
      | collision => exact hv
      | tooFar hitems =>
        rcases hitems with rfl | ⟨rfl, -⟩
        · exact hv
        · exact ordered_nil

/-- What stands in a slot is put there again. -/
theorem put_self {w : Json} (hv : v.Ordered) (h : v.at? [segment] = some w) :
    put w segment v = v := by
  obtain ⟨name, fields, rfl, rfl, hfield⟩ | ⟨position, items, rfl, rfl, hitem⟩ := slot_cases h
  · rw [put, asFields?, Option.getD_some, Dictionary.insert_of_get? hv.sorted hfield]
  · obtain ⟨hlt, hslot⟩ := List.getElem?_eq_some_iff.mp hitem
    rw [put, asItems?, Option.getD_some, pad_of_lt hlt, ← hslot, List.set_getElem_self]

/-- What stands at a path is written there again: nothing changes. -/
theorem write_self {w : Json} (hv : v.Ordered) (h : v.at? path = some w) :
    write w path v = { value := v } := by
  induction path generalizing v with
  | nil =>
    rw [at?_nil] at h
    cases h
    rfl
  | cons segment path ih =>
    rw [at?_cons] at h
    obtain ⟨child, hchild, hw⟩ := Option.bind_eq_some_iff.mp h
    rw [write_of_free (free_of_at? hchild), standing_of_at? hchild, ih (hv.at? hchild) hw,
      put_self hv hchild]

/-! ## §3 Others -/

theorem Ordered.without (hv : v.Ordered) (slot : Segment) : (without slot v).Ordered := by
  cases slot with
  | key name =>
    cases v with
    | obj fields => exact hv.erase name
    | _ => exact hv
  | index position =>
    cases v with
    | arr items => exact hv.set position .null
    | _ => exact hv

theorem ordered_removeAt? {removed left : Json} (hv : v.Ordered)
    (h : removeAt? path v = some (removed, left)) : left.Ordered := by
  rcases List.eq_nil_or_concat path with rfl | ⟨front, slot, rfl⟩
  · cases h
  · rw [List.concat_eq_append, removeAt?_concat] at h
    obtain ⟨w, -, heq⟩ := Option.map_eq_some_iff.mp h
    cases heq
    exact ordered_write ((hv.standing front).without slot) front hv

mutual

theorem ordered_merge {older : Json} (hold : older.Ordered) :
    (newer : Json) → newer.Ordered → (merge older newer).Ordered
  | .obj newer, hnew => by
    unfold merge
    split
    · exact ordered_mergeFields hold newer fun _ hmem => hnew.field hmem
    · exact hnew
  | .null, hnew | .bool _, hnew | .num _, hnew | .str _, hnew | .arr _, hnew => by
    rw [merge]
    exact hnew

theorem ordered_mergeFields {older : List (String × Json)} (hold : Ordered (.obj older)) :
    (newer : List (String × Json)) → (∀ entry ∈ newer, entry.2.Ordered) →
      Ordered (.obj (mergeFields older newer))
  | [], _ => by
    rw [mergeFields]
    exact hold
  | (name, v) :: rest, hnew => by
    obtain ⟨hv, hrest⟩ := List.forall_mem_cons.mp hnew
    rw [mergeFields]
    split
    · next existing hexisting =>
      have hunited := ordered_merge (hold.field (Dictionary.mem_of_get? hexisting)) v hv
      exact ordered_mergeFields (hold.insert name hunited) rest hrest
    · exact ordered_mergeFields (hold.insert name hv) rest hrest

end

end Json

/-! ## §4 Stores -/

namespace Store

variable {s : Store}

/-- The keys of every object in the store ascend, as they do in the state of every instance. -/
def Ordered (s : Store) : Prop := s.root.Ordered

theorem ordered_empty : empty.Ordered := Json.ordered_empty

/-- Whatever is read is ordered. -/
theorem Ordered.of_get? (hs : s.Ordered) {text : String} {v : Json} (h : s.get? text = some v) :
    v.Ordered := by
  obtain ⟨path, -, hat⟩ := Option.bind_eq_some_iff.mp h
  exact Json.Ordered.at? hs hat

theorem ordered_get? (hs : s.Ordered) (text : String) : ((s.get? text).getD .null).Ordered := by
  cases hget : s.get? text with
  | none => exact .null
  | some v => exact hs.of_get? hget

/-- A store stays ordered, whether a write succeeds or not. -/
theorem ordered_set (hs : s.Ordered) (text : String) {value : Json} (hvalue : value.Ordered) :
    (s.set text value).1.Ordered := by
  unfold set
  split
  · exact hs
  · exact Json.ordered_write hvalue _ hs

/-- What is read at a path is written there again: nothing changes. -/
theorem set_self (hs : s.Ordered) {text : String} {value : Json}
    (h : s.get? text = some value) : s.set text value = (s, none) := by
  obtain ⟨path, hread, hat⟩ := Option.bind_eq_some_iff.mp h
  rw [set, hread]
  dsimp only
  rw [Json.write_self hs hat]
  rfl

theorem ordered_erase (hs : s.Ordered) (text : String) : (s.erase text).Ordered := by
  unfold erase
  split
  · next w left hremoved =>
    rw [remove?_eq] at hremoved
    obtain ⟨path, -, hrest⟩ := Option.bind_eq_some_iff.mp hremoved
    obtain ⟨⟨removed, less⟩, hless, heq⟩ := Option.map_eq_some_iff.mp hrest
    cases heq
    exact Json.ordered_removeAt? hs hless
  · exact hs

theorem ordered_merge (hs : s.Ordered) {subtree : Json} (hsubtree : subtree.Ordered)
    (text : String) : (s.merge subtree text).1.Ordered := by
  rw [merge_eq]
  exact ordered_set hs text (Json.ordered_merge (ordered_get? hs text) subtree hsubtree)

/-- Ordered values written one after the other make an ordered store. -/
theorem ordered_ofPaths {fields : List (String × Json)}
    (hfields : ∀ entry ∈ fields, entry.2.Ordered) (h : ofPaths fields = .ok s) : s.Ordered := by
  have hempty := ordered_empty
  unfold ofPaths at h
  generalize empty = t at h hempty
  induction fields generalizing t with
  | nil => exact Except.ok.inj h ▸ hempty
  | cons entry fields ih =>
    obtain ⟨hvalue, hrest⟩ := List.forall_mem_cons.mp hfields
    obtain ⟨next, hnext, h⟩ := bind_eq_ok_iff.mp h
    have hset := ordered_set hempty entry.1 hvalue
    refine ih hrest next h ?_
    dsimp only at hnext
    split at hnext
    · next heq =>
      rw [heq] at hset
      exact Except.ok.inj hnext ▸ hset
    · cases hnext

end Store

end TaskFlow
