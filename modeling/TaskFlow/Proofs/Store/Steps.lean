/-
TaskFlow.Proofs.Store.Steps — a write, one segment at a time.

A write looks at the element under each segment of its path. Either something is in the way of the
segment, and the write ends there, or one slot of the element is replaced and the write goes on in
that slot. Everything that is known of a write follows from these two equations
(`write_of_blocks`, `write_of_free`) and from what `put` makes of the slots.

  §1 Reading   — `standing`, the element at a path; what a container has in its slots.
  §2 Obstacles — `Blocks`: what is in the way of a segment.
  §3 Slots     — `put`: one slot of a container replaced; `Pads`: the slots that it fills with null.
  §4 Writing   — a write at its first segment, and behind any first part of its path.
-/
import Mathlib.Tactic.ByContra
import TaskFlow.Store

namespace TaskFlow

/-- The value is the container that a segment leads into. -/
def Segment.Fits : Segment → Json → Prop
  | .key _, v => ∃ fields, v = .obj fields
  | .index _, v => ∃ items, v = .arr items

namespace Json

variable {v : Json} {segment other : Segment} {rest : Path}

/-! ## §1 Reading -/

/-- The element at a path; null where there is none. -/
def standing (v : Json) (path : Path) : Json := (v.at? path).getD .null

theorem at?_nil (v : Json) : v.at? [] = some v := by
  cases v <;> rfl

theorem at?_cons (v : Json) (segment : Segment) (rest : Path) :
    v.at? (segment :: rest) = (v.at? [segment]).bind (·.at? rest) := by
  cases v <;> cases segment <;> simp [at?]

/-- There is nothing below null. -/
theorem at?_null_cons (segment : Segment) (rest : Path) :
    at? .null (segment :: rest) = none := by
  cases segment <;> rfl

theorem standing_nil (v : Json) : v.standing [] = v := by
  rw [standing, at?_nil]
  rfl

/-- Below an element, it makes no difference whether it is null or not there. -/
theorem at?_cons_of_ne_nil (v : Json) (segment : Segment) (h : rest ≠ []) :
    v.at? (segment :: rest) = (v.standing [segment]).at? rest := by
  rw [at?_cons, standing]
  cases v.at? [segment] with
  | some w => rfl
  | none =>
    obtain ⟨next, rest, rfl⟩ := List.exists_cons_of_ne_nil h
    exact (at?_null_cons next rest).symm

theorem standing_of_at? {path : Path} {w : Json} (h : v.at? path = some w) :
    v.standing path = w := by
  rw [standing, h, Option.getD_some]

/-- Joined paths are read one after the other. -/
theorem at?_append (v : Json) (front rest : Path) :
    v.at? (front ++ rest) = (v.at? front).bind (·.at? rest) := by
  induction front generalizing v with
  | nil => rw [at?_nil, List.nil_append, Option.bind_some]
  | cons segment front ih =>
    rw [List.cons_append, at?_cons, at?_cons v segment front, Option.bind_assoc]
    exact Option.bind_congr fun child _ => ih child

theorem standing_cons (v : Json) (segment : Segment) (rest : Path) :
    v.standing (segment :: rest) = (v.standing [segment]).standing rest := by
  cases rest with
  | nil => exact (standing_nil _).symm
  | cons next rest =>
    rw [standing, at?_cons_of_ne_nil v segment (List.cons_ne_nil next rest)]
    rfl

/-- A slot that is there: a field of an object, or an item of a list. -/
theorem slot_cases {w : Json} (h : v.at? [segment] = some w) :
    (∃ name fields, segment = .key name ∧ v = .obj fields ∧
      Dictionary.get? name fields = some w) ∨
    (∃ position items, segment = .index position ∧ v = .arr items ∧
      items[position]? = some w) := by
  cases segment with
  | key name =>
    cases v with
    | obj fields => exact .inl ⟨name, fields, rfl, rfl, by simpa [at?, at?_nil] using h⟩
    | _ => cases h
  | index position =>
    cases v with
    | arr items => exact .inr ⟨position, items, rfl, rfl, by simpa [at?, at?_nil] using h⟩
    | _ => cases h

theorem asFields?_eq_some_iff {fields : List (String × Json)} :
    asFields? v = some fields ↔ v = .obj fields ∨ v = .null ∧ fields = [] := by
  cases v <;> simp [asFields?, eq_comm]

theorem asItems?_eq_some_iff {items : List Json} :
    asItems? v = some items ↔ v = .arr items ∨ v = .null ∧ items = [] := by
  cases v <;> simp [asItems?, eq_comm]

theorem at?_key {name : String} {fields : List (String × Json)} (h : asFields? v = some fields) :
    v.at? (.key name :: rest) = (Dictionary.get? name fields).bind (·.at? rest) := by
  rcases asFields?_eq_some_iff.mp h with rfl | ⟨rfl, rfl⟩ <;> rfl

theorem at?_index {position : Nat} {items : List Json} (h : asItems? v = some items) :
    v.at? (.index position :: rest) = items[position]?.bind (·.at? rest) := by
  rcases asItems?_eq_some_iff.mp h with rfl | ⟨rfl, rfl⟩ <;> rfl

theorem standing_key {name : String} {fields : List (String × Json)}
    (h : asFields? v = some fields) :
    v.standing [.key name] = (Dictionary.get? name fields).getD .null := by
  rw [standing, at?_key h]
  cases Dictionary.get? name fields <;> simp [at?_nil]

theorem standing_index {position : Nat} {items : List Json} (h : asItems? v = some items) :
    v.standing [.index position] = items[position]?.getD .null := by
  rw [standing, at?_index h]
  cases items[position]? <;> simp [at?_nil]

/-! ## §2 Obstacles -/

/-- What is in the way of a segment where a value stands. -/
inductive Blocks (v : Json) : Segment → Obstacle → Prop
  | collision {segment : Segment} (hnull : v ≠ .null) (hkind : ¬segment.Fits v) :
      Blocks v segment (.collision segment)
  /-- The index is too far behind the end of a list; null stands for an empty one. -/
  | tooFar {position : Nat} {items : List Json} (hitems : v = .arr items ∨ v = .null ∧ items = [])
      (hfar : items.length + maxPadding < position) :
      Blocks v (.index position) (.tooFar position items.length)

/-- Nothing is in the way of a segment. -/
def Free (v : Json) (segment : Segment) : Prop := ∀ o, ¬Blocks v segment o

/-- What an obstacle leaves of the value where it stands: a list is made of null before the index
turns out to be too far. -/
def Obstacle.leaves : Obstacle → Json → Json
  | .tooFar .., .null => .arr []
  | _, v => v

theorem Free.exists_fields {name : String} (h : Free v (.key name)) :
    ∃ fields, asFields? v = some fields := by
  by_contra hnone
  refine h _ (.collision ?_ ?_)
  · rintro rfl
    exact hnone ⟨[], rfl⟩
  · rintro ⟨fields, rfl⟩
    exact hnone ⟨fields, rfl⟩

theorem Free.exists_items {position : Nat} (h : Free v (.index position)) :
    ∃ items, asItems? v = some items ∧ position ≤ items.length + maxPadding := by
  have hlist : ∃ items, asItems? v = some items := by
    by_contra hnone
    refine h _ (.collision ?_ ?_)
    · rintro rfl
      exact hnone ⟨[], rfl⟩
    · rintro ⟨items, rfl⟩
      exact hnone ⟨items, rfl⟩
  obtain ⟨items, hitems⟩ := hlist
  refine ⟨items, hitems, ?_⟩
  by_contra hfar
  exact h _ (.tooFar (asItems?_eq_some_iff.mp hitems) (Nat.not_le.mp hfar))

/-- Nothing is in the way of a slot that is there. -/
theorem free_of_at? {w : Json} (h : v.at? [segment] = some w) : Free v segment := by
  intro o ho
  obtain ⟨name, fields, rfl, rfl, -⟩ | ⟨position, items, rfl, rfl, hitem⟩ := slot_cases h
  · cases ho with
    | collision hnull hkind => exact hkind ⟨fields, rfl⟩
  · have hlt := (List.getElem?_eq_some_iff.mp hitem).1
    cases ho with
    | collision hnull hkind => exact hkind ⟨items, rfl⟩
    | tooFar hitems hfar =>
      rcases hitems with hitems | ⟨hnull, -⟩
      · cases hitems
        omega
      · cases hnull

/-! ## §3 Slots -/

/-- The value with one slot replaced, in an object or a list; null stands for an empty one. -/
def put (value : Json) : Segment → Json → Json
  | .key name, v => .obj (Dictionary.insert name value ((asFields? v).getD []))
  | .index position, v => .arr ((pad ((asItems? v).getD []) position).set position value)

/-- A null is put at the other slot when the one is replaced: both are indexes, and the other one
lies behind the items of the list but before the replaced slot. -/
def Pads (v : Json) : (segment other : Segment) → Prop
  | .index position, .index other =>
    other < position ∧ ∀ items, v = .arr items → items.length ≤ other
  | _, _ => False

theorem length_pad (items : List Json) (position : Nat) :
    (pad items position).length = max items.length (position + 1) := by
  rw [pad, List.length_append, List.length_replicate]
  omega

theorem pad_of_lt {items : List Json} {position : Nat} (h : position < items.length) :
    pad items position = items := by
  rw [pad, Nat.sub_eq_zero_of_le h, List.replicate_zero, List.append_nil]

/-- Behind its items, a list is padded with null. -/
theorem getElem?_pad_of_le {items : List Json} {other position : Nat} (h : items.length ≤ other)
    (hpad : other ≤ position) : (pad items position)[other]? = some .null := by
  rw [pad, List.getElem?_append_right h, List.getElem?_replicate, if_pos (by omega)]

/-- The items of a list and what lies behind the padding are as they were. -/
theorem getElem?_pad_of_outside {items : List Json} {other position : Nat}
    (h : other < items.length ∨ position < other) :
    (pad items position)[other]? = items[other]? := by
  rcases Nat.lt_or_ge other items.length with hlt | hle
  · exact List.getElem?_append_left hlt
  · rw [List.getElem?_eq_none_iff.mpr hle, List.getElem?_eq_none_iff, length_pad]
    omega

/-- The replaced slot holds the value. -/
theorem at?_put_self (value : Json) (segment : Segment) (v : Json) (rest : Path) :
    (put value segment v).at? (segment :: rest) = value.at? rest := by
  cases segment with
  | key name => simp [put, at?]
  | index position =>
    have hlength : position < (pad ((asItems? v).getD []) position).length := by
      rw [length_pad]
      omega
    simp [put, at?, List.getElem?_set_self hlength]

/-- A slot that is padded was not there before, and holds null now. -/
theorem at?_put_of_pads (hfree : Free v segment) (h : Pads v segment other) (value : Json)
    (rest : Path) :
    v.at? (other :: rest) = none ∧
      (put value segment v).at? (other :: rest) = at? .null rest := by
  cases segment with
  | key name => cases h
  | index position =>
    cases other with
    | key name => cases h
    | index other =>
      obtain ⟨hlt, hbehind⟩ := h
      obtain ⟨items, hitems, -⟩ := hfree.exists_items
      have hle : items.length ≤ other := by
        rcases asItems?_eq_some_iff.mp hitems with rfl | ⟨-, rfl⟩
        · exact hbehind items rfl
        · exact Nat.zero_le other
      constructor
      · rw [at?_index hitems, List.getElem?_eq_none_iff.mpr hle]
        rfl
      · rw [put, at?, hitems, Option.getD_some, List.getElem?_set_ne (Nat.ne_of_gt hlt),
          getElem?_pad_of_le hle (Nat.le_of_lt hlt)]
        rfl

/-- Every other slot is as it was. -/
theorem at?_put_of_ne (hfree : Free v segment) (hne : other ≠ segment)
    (h : ¬Pads v segment other) (value : Json) (rest : Path) :
    (put value segment v).at? (other :: rest) = v.at? (other :: rest) := by
  cases segment with
  | key name =>
    obtain ⟨fields, hfields⟩ := hfree.exists_fields
    rw [put, hfields, Option.getD_some]
    cases other with
    | key other =>
      have hkey : other ≠ name := fun e => hne (e ▸ rfl)
      rw [at?, at?_key hfields, Dictionary.get?_insert_of_ne hkey]
    | index other =>
      rcases asFields?_eq_some_iff.mp hfields with rfl | ⟨rfl, rfl⟩ <;> rfl
  | index position =>
    obtain ⟨items, hitems, -⟩ := hfree.exists_items
    rw [put, hitems, Option.getD_some]
    cases other with
    | key other =>
      rcases asItems?_eq_some_iff.mp hitems with rfl | ⟨rfl, rfl⟩ <;> rfl
    | index other =>
      have hindex : position ≠ other := fun e => hne (e ▸ rfl)
      have houtside : other < items.length ∨ position < other := by
        by_contra hinside
        refine h ⟨by omega, ?_⟩
        rintro items' rfl
        cases hitems
        omega
      rw [at?, at?_index hitems, List.getElem?_set_ne hindex, getElem?_pad_of_outside houtside]

/-! ## §4 Writing -/

/-- A write ends at the first obstacle. -/
theorem write_of_blocks {o : Obstacle} (h : Blocks v segment o) (value : Json) (rest : Path) :
    write value (segment :: rest) v = { value := o.leaves v, obstacle := some o } := by
  cases h with
  | collision hnull hkind =>
    cases segment with
    | key name =>
      cases v with
      | null => exact absurd rfl hnull
      | obj fields => exact absurd ⟨fields, rfl⟩ hkind
      | _ => rfl
    | index position =>
      cases v with
      | null => exact absurd rfl hnull
      | arr items => exact absurd ⟨items, rfl⟩ hkind
      | _ => rfl
  | tooFar hitems hfar =>
    rw [write, asItems?_eq_some_iff.mpr hitems]
    dsimp only
    rw [if_pos hfar]
    rcases hitems with rfl | ⟨rfl, rfl⟩ <;> rfl

/-- Where nothing is in the way, one slot is replaced by what the rest of the write makes of it. -/
theorem write_of_free (h : Free v segment) (value : Json) (rest : Path) :
    write value (segment :: rest) v =
      { value := put (write value rest (v.standing [segment])).value segment v
        obstacle := (write value rest (v.standing [segment])).obstacle } := by
  cases segment with
  | key name =>
    obtain ⟨fields, hfields⟩ := h.exists_fields
    rw [write, standing_key hfields, put, hfields]
    rfl
  | index position =>
    obtain ⟨items, hitems, hnear⟩ := h.exists_items
    rw [write, standing_index hitems, put, hitems]
    dsimp only
    rw [if_neg (Nat.not_lt.mpr hnear)]
    rfl

/-- A write that succeeds finds nothing in the way, neither at its first segment nor behind. -/
theorem free_of_write {value : Json}
    (h : (write value (segment :: rest) v).obstacle = none) :
    Free v segment ∧ (write value rest (v.standing [segment])).obstacle = none := by
  have hfree : Free v segment := by
    intro o ho
    rw [write_of_blocks ho] at h
    cases h
  rw [write_of_free hfree] at h
  exact ⟨hfree, h⟩

/-- Behind the first part of its path, a write is a write into what stands there. -/
theorem at?_write_append {value : Json} {front : Path}
    (h : (write value (front ++ rest) v).obstacle = none) :
    (write value rest (v.standing front)).obstacle = none ∧
      ∀ path, (write value (front ++ rest) v).value.at? (front ++ path) =
        (write value rest (v.standing front)).value.at? path := by
  induction front generalizing v with
  | nil =>
    rw [standing_nil]
    exact ⟨h, fun _ => rfl⟩
  | cons segment front ih =>
    obtain ⟨hfree, hrest⟩ := free_of_write h
    rw [standing_cons]
    refine ⟨(ih hrest).1, fun path => ?_⟩
    rw [List.cons_append, List.cons_append, write_of_free hfree, at?_put_self]
    exact (ih hrest).2 path

/-- At its path and below, the written value is read. -/
theorem at?_write_self {value : Json} {path : Path} (h : (write value path v).obstacle = none)
    (rest : Path) : (write value path v).value.at? (path ++ rest) = value.at? rest := by
  have hclear : (write value (path ++ []) v).obstacle = none := by rw [List.append_nil, h]
  have hread := (at?_write_append hclear).2 rest
  rwa [List.append_nil] at hread

end Json

end TaskFlow
