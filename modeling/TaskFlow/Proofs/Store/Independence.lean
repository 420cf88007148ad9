/-
TaskFlow.Proofs.Store.Independence — writes at paths that part from each other.

Two paths part from each other at a segment in which they differ. Up to there both writes go the
same way, and there they replace two slots of one container. So the order of the writes does not
matter to the value, if both orders succeed. It does matter to success: the first write may lengthen
the list that the second one needs, and nothing else can come between them (`write_swapped`).

  §1 Dictionaries — two keys inserted one after the other.
  §2 Slots        — two slots replaced one after the other.
  §3 Writes       — two writes in the other order.
  §4 Stores       — the same for the texts of paths.
-/
import TaskFlow.Proofs.Store.Obstacles

namespace TaskFlow

/-! ## §1 Dictionaries -/

namespace Dictionary

variable {α : Type} {key other : String} {d : Dictionary α}

/-- Of two values inserted under one key, the later one stays. -/
theorem insert_insert_self (key : String) (value later : α) (d : Dictionary α) :
    insert key later (insert key value d) = insert key later d := by
  induction d with
  | nil => simp [insert]
  | cons entry rest ih =>
    obtain ⟨k, v⟩ := entry
    rw [insert, insert]
    split
    · rw [insert, if_pos rfl]
    · next hne =>
      split
      · rw [insert, if_pos rfl]
      · next hlt => rw [insert, if_neg hne, if_neg hlt, ih]

/-- A key that is smaller than the first one is put in front. -/
theorem insert_of_lt_head (h : ∀ entry ∈ d.head?, key < entry.1) (value : α) :
    insert key value d = (key, value) :: d := by
  cases d with
  | nil => rfl
  | cons entry rest =>
    obtain ⟨k, v⟩ := entry
    have hlt : key < k := h (k, v) rfl
    have hne : k ≠ key := fun e => String.lt_irrefl key (e ▸ hlt)
    rw [insert, if_neg hne, if_pos hlt]

theorem lt_head_insert (hother : key < other) (h : ∀ entry ∈ d.head?, key < entry.1) (value : α) :
    ∀ entry ∈ (insert other value d).head?, key < entry.1 := by
  cases d with
  | nil =>
    rintro entry ⟨⟩
    exact hother
  | cons head rest =>
    obtain ⟨k, v⟩ := head
    rw [insert]
    split
    · rintro entry ⟨⟩
      exact hother
    · split
      · rintro entry ⟨⟩
        exact hother
      · rintro entry ⟨⟩
        exact h (k, v) rfl

theorem insert_comm_of_lt (h : key < other) (value value' : α) (d : Dictionary α) :
    insert key value (insert other value' d) = insert other value' (insert key value d) := by
  have hne : key ≠ other := fun e => String.lt_irrefl key (e ▸ h)
  have hnot : ¬other < key := String.lt_asymm h
  induction d with
  | nil => simp [insert, h, hne, hnot, Ne.symm hne]
  | cons entry rest ih =>
    obtain ⟨k, v⟩ := entry
    by_cases hk : k = key
    · subst hk
      simp [insert, hne, hnot]
    · by_cases hlt : key < k
      · -- the smaller key comes first, whatever becomes of the other one
        have hhead : ∀ entry ∈ ((k, v) :: rest).head?, key < entry.1 := by
          rintro entry ⟨⟩
          exact hlt
        rw [insert_of_lt_head hhead, insert_of_lt_head (lt_head_insert h hhead value'),
          insert.eq_2 other value' key value, if_neg hne, if_neg hnot]
      · have hbelow : k < key := Std.lt_of_le_of_ne (String.not_lt.mp hlt) hk
        have hk' : k ≠ other := fun e => hnot (e ▸ hbelow)
        have hlt' : ¬other < k := String.lt_asymm (String.lt_trans hbelow h)
        simp only [insert, hk, hlt, hk', hlt', if_false, ih]

/-- Two keys are inserted in either order. -/
theorem insert_comm (h : key ≠ other) (value value' : α) (d : Dictionary α) :
    insert key value (insert other value' d) = insert other value' (insert key value d) := by
  by_cases hlt : key < other
  · exact insert_comm_of_lt hlt value value' d
  · have hlt' : other < key := Std.lt_of_le_of_ne (String.not_lt.mp hlt) (Ne.symm h)
    exact (insert_comm_of_lt hlt' value' value d).symm

end Dictionary

namespace Json

variable {v x y value value' : Json} {segment other : Segment} {path path' : Path}

/-! ## §2 Slots -/

/-- A padded list with one item replaced, read at any position. -/
theorem getElem?_set_pad (items : List Json) (position : Nat) (x : Json) (i : Nat) :
    ((pad items position).set position x)[i]? =
      if i = position then some x
      else if items.length ≤ i ∧ i < position then some .null
      else items[i]? := by
  split
  · next heq =>
    have hlength : position < (pad items position).length := by
      rw [length_pad]
      omega
    rw [heq, List.getElem?_set_self hlength]
  · next hne =>
    rw [List.getElem?_set_ne (Ne.symm hne)]
    split
    · next hpadded => exact getElem?_pad_of_le hpadded.1 (Nat.le_of_lt hpadded.2)
    · exact getElem?_pad_of_outside (by omega)

theorem length_set_pad (items : List Json) (position : Nat) (x : Json) :
    ((pad items position).set position x).length = max items.length (position + 1) := by
  rw [List.length_set, length_pad]

/-- Two items of a list are replaced in either order, however far it has to be padded. -/
theorem set_pad_comm {i j : Nat} (h : i ≠ j) (items : List Json) (x y : Json) :
    (pad ((pad items i).set i x) j).set j y = (pad ((pad items j).set j y) i).set i x := by
  apply List.ext_getElem?
  intro k
  rw [getElem?_set_pad, getElem?_set_pad, getElem?_set_pad, getElem?_set_pad, length_set_pad,
    length_set_pad]
  grind

/-- What is needed of a value for a key to be written into it. -/
theorem free_key_iff {name : String} :
    Free v (.key name) ↔ ∃ fields, asFields? v = some fields := by
  refine ⟨Free.exists_fields, ?_⟩
  rintro ⟨fields, hfields⟩ o ho
  cases ho with
  | collision hnull hkind =>
    rcases asFields?_eq_some_iff.mp hfields with rfl | ⟨rfl, -⟩
    · exact hkind ⟨fields, rfl⟩
    · exact hnull rfl

/-- What is needed of a value for an index to be written into it. -/
theorem free_index_iff {position : Nat} :
    Free v (.index position) ↔
      ∃ items, asItems? v = some items ∧ position ≤ items.length + maxPadding := by
  refine ⟨Free.exists_items, ?_⟩
  rintro ⟨items, hitems, hnear⟩ o ho
  cases ho with
  | collision hnull hkind =>
    rcases asItems?_eq_some_iff.mp hitems with rfl | ⟨rfl, -⟩
    · exact hkind ⟨items, rfl⟩
    · exact hnull rfl
  | tooFar hlist hfar =>
    rw [← asItems?_eq_some_iff, hitems] at hlist
    cases hlist
    omega

/-- Of two values put into one slot, the later one stays. -/
theorem put_put_self (x y : Json) (segment : Segment) (v : Json) :
    put y segment (put x segment v) = put y segment v := by
  cases segment with
  | key name =>
    rw [put, put, asFields?, Option.getD_some, Dictionary.insert_insert_self]
    rfl
  | index position =>
    have hlt : position < ((pad ((asItems? v).getD []) position).set position x).length := by
      rw [length_set_pad]
      omega
    rw [put, put, asItems?, Option.getD_some, pad_of_lt hlt, List.set_set]
    rfl

/-- A slot that was replaced is free for another value. -/
theorem free_put_self (x : Json) (segment : Segment) (v : Json) :
    Free (put x segment v) segment := by
  cases segment with
  | key name => exact free_key_iff.mpr ⟨_, rfl⟩
  | index position =>
    refine free_index_iff.mpr ⟨_, rfl, ?_⟩
    rw [length_set_pad]
    omega

/-- A container that takes in one slot after another takes them in in either order. -/
theorem put_comm (hne : other ≠ segment) (h : Free (put x segment v) other) (y : Json) :
    put y other (put x segment v) = put x segment (put y other v) := by
  cases segment with
  | key name =>
    cases other with
    | key name' =>
      have hkey : name' ≠ name := fun e => hne (e ▸ rfl)
      simp only [put, asFields?, Option.getD_some, Dictionary.insert_comm hkey]
    | index position =>
      obtain ⟨items, hitems, -⟩ := h.exists_items
      cases hitems
  | index position =>
    cases other with
    | key name =>
      obtain ⟨fields, hfields⟩ := h.exists_fields
      cases hfields
    | index position' =>
      have hindex : position ≠ position' := fun e => hne (e ▸ rfl)
      simp only [put, asItems?, Option.getD_some, set_pad_comm hindex]

/-- If a slot is free before another one is replaced and the other one after that, the first slot
stays free when the other one is replaced before it: a list does not get shorter. -/
theorem free_put_comm (hfree : Free v segment) (h : Free (put x segment v) other) (y : Json) :
    Free (put y other v) segment := by
  cases segment with
  | key name =>
    cases other with
    | key name' => exact free_key_iff.mpr ⟨_, rfl⟩
    | index position =>
      obtain ⟨items, hitems, -⟩ := h.exists_items
      cases hitems
  | index position =>
    cases other with
    | key name =>
      obtain ⟨fields, hfields⟩ := h.exists_fields
      cases hfields
    | index position' =>
      obtain ⟨items, hitems, hnear⟩ := hfree.exists_items
      refine free_index_iff.mpr ⟨_, rfl, ?_⟩
      rw [hitems, Option.getD_some, length_set_pad]
      omega

/-- What is in the way of a slot and is not any more once another one was replaced is the length of
the list: the kind of the container is the same. -/
theorem tooFar_of_free_put {o : Obstacle} (hfree : Free v segment)
    (h : Free (put x segment v) other) (ho : Blocks v other o) :
    ∃ position length, o = .tooFar position length := by
  cases ho with
  | tooFar => exact ⟨_, _, rfl⟩
  | collision hnull hkind =>
    exfalso
    cases segment with
    | key name =>
      obtain ⟨fields, hfields⟩ := hfree.exists_fields
      rcases asFields?_eq_some_iff.mp hfields with rfl | ⟨rfl, -⟩
      · cases other with
        | key name' => exact hkind ⟨fields, rfl⟩
        | index position =>
          obtain ⟨items, hitems, -⟩ := h.exists_items
          cases hitems
      · exact hnull rfl
    | index position =>
      obtain ⟨items, hitems, -⟩ := hfree.exists_items
      rcases asItems?_eq_some_iff.mp hitems with rfl | ⟨rfl, -⟩
      · cases other with
        | key name =>
          obtain ⟨fields, hfields⟩ := h.exists_fields
          cases hfields
        | index position' => exact hkind ⟨items, rfl⟩
      · exact hnull rfl

theorem standing_put_self (x : Json) (segment : Segment) (v : Json) :
    (put x segment v).standing [segment] = x := by
  rw [standing, at?_put_self, at?_nil]
  rfl

/-- In every other slot stands what stood there, null where there was nothing. -/
theorem standing_put_of_ne (hfree : Free v segment) (hne : other ≠ segment) (x : Json) :
    (put x segment v).standing [other] = v.standing [other] := by
  by_cases hpads : Pads v segment other
  · obtain ⟨hbefore, hafter⟩ := at?_put_of_pads hfree hpads x []
    rw [standing, standing, hbefore, hafter, at?_nil]
    rfl
  · rw [standing, standing, at?_put_of_ne hfree hne hpads]

/-! ## §3 Writes -/

/-- A write that goes through a slot puts one value into it. -/
theorem write_put_self (x : Json) (segment : Segment) (v : Json) (rest : Path) :
    write value (segment :: rest) (put x segment v) =
      { value := put (write value rest x).value segment v
        obstacle := (write value rest x).obstacle } := by
  rw [write_of_free (free_put_self x segment v), standing_put_self, put_put_self]

/-- If a write succeeds behind another one whose path parts from its own, it also succeeds in front
of it and the order does not matter, unless there an index is too far. -/
theorem write_swapped (hpath : ¬path <+: path') (hpath' : ¬path' <+: path)
    (hfirst : (write value path v).obstacle = none)
    (hsecond : (write value' path' (write value path v).value).obstacle = none) :
    ((write value' path' v).obstacle = none ∧
      write value path (write value' path' v).value =
        { value := (write value' path' (write value path v).value).value }) ∨
    ∃ position length, (write value' path' v).obstacle = some (.tooFar position length) := by
  induction path generalizing v path' with
  | nil => exact absurd List.nil_prefix hpath
  | cons segment path ih =>
    obtain ⟨hfree, hrest⟩ := free_of_write hfirst
    rw [write_of_free hfree] at hsecond ⊢
    dsimp only at hsecond ⊢
    cases path' with
    | nil => exact absurd List.nil_prefix hpath'
    | cons other path' =>
      by_cases hslot : other = segment
      · subst hslot
        rw [List.cons_prefix_cons] at hpath hpath'
        have hpath : ¬path <+: path' := fun hp => hpath ⟨rfl, hp⟩
        have hpath' : ¬path' <+: path := fun hp => hpath' ⟨rfl, hp⟩
        rw [write_put_self] at hsecond ⊢
        rw [write_of_free hfree]
        dsimp only at hsecond ⊢
        rw [write_put_self]
        rcases ih hpath hpath' hrest hsecond with ⟨hclear, hswap⟩ | hfar
        · exact Or.inl ⟨hclear, by rw [hswap]⟩
        · exact Or.inr hfar
      · obtain ⟨hfree', hrest'⟩ := free_of_write hsecond
        by_cases hearly : Free v other
        · refine Or.inl ?_
          have hback := free_put_comm hfree hfree'
          rw [standing_put_of_ne hfree hslot] at hrest'
          rw [write_of_free hearly, write_of_free hfree']
          dsimp only
          rw [write_of_free (hback _), standing_put_of_ne hearly (Ne.symm hslot),
            standing_put_of_ne hfree hslot, hrest, put_comm hslot hfree']
          exact ⟨hrest', rfl⟩
        · obtain ⟨o, ho⟩ := not_forall_not.mp hearly
          obtain ⟨position, length, rfl⟩ := tooFar_of_free_put hfree hfree' ho
          exact Or.inr ⟨position, length, by rw [write_of_blocks ho]⟩

end Json

/-! ## §4 Stores -/

namespace Store

variable {s t u : Store} {text text' : String} {path path' : Path} {value value' : Json}

theorem set_eq_ok_iff (hread : Path.read? text = some path) :
    s.set text value = (t, none) ↔ Json.write value path s.root = { value := t.root } := by
  rw [set_of_read? hread, Prod.mk.injEq, Option.map_eq_none_iff]
  constructor
  · rintro ⟨rfl, hclear⟩
    rw [← hclear]
  · intro hwrite
    rw [hwrite]
    exact ⟨rfl, rfl⟩

/-- Two writes at paths that part from each other, the one after the other: in the other order they
succeed too and leave the same store, or the one that now comes first fails, and it does because an
index is too far behind the end of a list, which the other write makes long enough. -/
theorem set_comm (hread : Path.read? text = some path) (hread' : Path.read? text' = some path')
    (hpath : ¬path <+: path') (hpath' : ¬path' <+: path)
    (hfirst : s.set text value = (t, none)) (hsecond : t.set text' value' = (u, none)) :
    (∃ t', s.set text' value' = (t', none) ∧ t'.set text value = (u, none)) ∨
      ∃ left position length,
        s.set text' value' = (left, some (.obstacle text' (.tooFar position length))) := by
  rw [set_eq_ok_iff hread] at hfirst
  rw [set_eq_ok_iff hread'] at hsecond
  have hclear : (Json.write value path s.root).obstacle = none := by rw [hfirst]
  have hclear' :
      (Json.write value' path' (Json.write value path s.root).value).obstacle = none := by
    rw [hfirst, hsecond]
  rcases Json.write_swapped hpath hpath' hclear hclear' with
    ⟨hearly, hswap⟩ | ⟨position, length, hfar⟩
  · refine Or.inl ⟨⟨(Json.write value' path' s.root).value⟩, ?_, ?_⟩
    · rw [set_eq_ok_iff hread', ← hearly]
    · rw [set_eq_ok_iff hread, hswap, hfirst, hsecond]
  · refine Or.inr ⟨⟨(Json.write value' path' s.root).value⟩, position, length, ?_⟩
    rw [set_of_read? hread', hfar]
    rfl

/-- Two items of a list that is not there yet: near ones are written in either order, and one that
is too far only behind the other. -/
theorem set_comm_rows :
    let s : Store := ⟨.obj [("model", .obj [])]⟩
    let t := (s.set "model.rows[1]" .null).1
    (∃ t', s.set "model.rows[0].name" .null = (t', none) ∧
      t'.set "model.rows[1]" .null = t.set "model.rows[0].name" .null) ∧
    (t.set "model.rows[1026]" .null).2 = none ∧
      ∃ left position length, s.set "model.rows[1026]" .null =
        (left, some (.obstacle "model.rows[1026]" (.tooFar position length))) := by
  intro s t
  have hread : Path.read? "model.rows[1]" = some [.key "model", .key "rows", .index 1] := by decide
  have hnear : Path.read? "model.rows[0].name" =
      some [.key "model", .key "rows", .index 0, .key "name"] := by decide
  have hfar : Path.read? "model.rows[1026]" = some [.key "model", .key "rows", .index 1026] := by
    decide
  have hfirst : s.set "model.rows[1]" .null = (t, none) := rfl
  have hclear : (t.set "model.rows[1026]" .null).2 = none := rfl
  refine ⟨?_, hclear, ?_⟩
  · rcases set_comm hread hnear (by decide) (by decide) hfirst rfl with hswap | ⟨_, _, _, hfault⟩
    · exact hswap
    · cases hfault
  · rcases set_comm hread hfar (by decide) (by decide) hfirst (Prod.ext rfl hclear) with
      ⟨_, hswap, -⟩ | hfault
    · cases hswap
    · exact hfault

end Store

end TaskFlow
