/-
TaskFlow.Proofs.Store.Obstacles — when a write fails, and what it leaves behind.

A write changes a value on its way down, but what stops it is told from the value before the write:
what it makes on its way is empty, and nothing is in the way there but an index that is too far. So
a write fails exactly if something is in the way of one of its segments (`InTheWay`), and the first
such position says what is left (`write_of_first`): the write stopped as if the element that stood
there had been the value to write, or an empty list where there was none.

  §1 Positions — `InTheWay`, `First`.
  §2 Failure   — a write that meets an obstacle, and one that meets none.
  §3 Growth    — `Grown`: what a write makes of a list.
  §4 Stores    — the same for the texts of paths.
-/
import Mathlib.Data.Nat.Find
import TaskFlow.Proofs.Store.Frame
import TaskFlow.Proofs.Store.Order

namespace TaskFlow

namespace Json

variable {v value : Json} {segment : Segment} {path : Path} {k : Nat} {o : Obstacle}

/-! ## §1 Positions -/

/-- Something is in the way of the segment at position `k` of the path. -/
def InTheWay (v : Json) (path : Path) (k : Nat) (o : Obstacle) : Prop :=
  ∃ segment, path[k]? = some segment ∧ Blocks (v.standing (path.take k)) segment o

/-- Position `k` of the path is the first one at which something is in the way. -/
structure First (v : Json) (path : Path) (k : Nat) (o : Obstacle) : Prop where
  inTheWay : v.InTheWay path k o
  clear : ∀ j < k, ∀ o', ¬v.InTheWay path j o'

theorem InTheWay.exists_cons (h : v.InTheWay path k o) :
    ∃ segment rest, path = segment :: rest := by
  obtain ⟨segment, hsegment, -⟩ := h
  cases path with
  | nil => cases hsegment
  | cons first rest => exact ⟨first, rest, rfl⟩

theorem inTheWay_zero : InTheWay v (segment :: path) 0 o ↔ Blocks v segment o := by
  rw [InTheWay, List.take_zero, standing_nil]
  constructor
  · rintro ⟨first, hfirst, hblocks⟩
    cases hfirst
    exact hblocks
  · exact fun hblocks => ⟨segment, rfl, hblocks⟩

theorem inTheWay_succ :
    InTheWay v (segment :: path) (k + 1) o ↔ InTheWay (v.standing [segment]) path k o := by
  rw [InTheWay, InTheWay, List.take_succ_cons, standing_cons, List.getElem?_cons_succ]

theorem InTheWay.exists_first (h : v.InTheWay path k o) : ∃ k o, First v path k o := by
  classical
  have hsome : ∃ k o, v.InTheWay path k o := ⟨k, o, h⟩
  obtain ⟨o, ho⟩ := Nat.find_spec hsome
  exact ⟨Nat.find hsome, o, ho, fun j hj o' ho' => Nat.find_min hsome hj ⟨o', ho'⟩⟩

/-- If the first obstacle is not at the first segment, that segment is free, and the obstacle is the
first one behind it. -/
theorem First.of_succ (h : First v (segment :: path) (k + 1) o) :
    Free v segment ∧ First (v.standing [segment]) path k o := by
  refine ⟨fun o' ho' => ?_, inTheWay_succ.mp h.inTheWay, fun j hj o' ho' => ?_⟩
  · exact h.clear 0 (Nat.succ_pos k) o' (inTheWay_zero.mpr ho')
  · exact h.clear (j + 1) (Nat.succ_lt_succ hj) o' (inTheWay_succ.mpr ho')

/-! ## §2 Failure -/

/-- A write ends at the first obstacle on its path: whatever the value, it leaves what is left by a
write up to there. -/
theorem write_of_first (h : First v path k o) :
    ∃ left, write (o.leaves (v.standing (path.take k))) (path.take k) v = { value := left } ∧
      ∀ value, write value path v = { value := left, obstacle := some o } := by
  induction k generalizing v path with
  | zero =>
    obtain ⟨segment, path, rfl⟩ := h.inTheWay.exists_cons
    rw [List.take_zero, standing_nil]
    exact ⟨o.leaves v, rfl, fun value => write_of_blocks (inTheWay_zero.mp h.inTheWay) value path⟩
  | succ k ih =>
    obtain ⟨segment, path, rfl⟩ := h.inTheWay.exists_cons
    obtain ⟨hfree, hrest⟩ := h.of_succ
    obtain ⟨left, hfront, hwrite⟩ := ih hrest
    refine ⟨put left segment v, ?_, fun value => ?_⟩
    · rw [List.take_succ_cons, standing_cons, write_of_free hfree, hfront]
    · rw [write_of_free hfree, hwrite]

/-- Where the obstacle leaves the element that stands there, everything is as it was. -/
theorem write_of_first_of_at? {w : Json} (hv : v.Ordered) (h : First v path k o)
    (hat : v.at? (path.take k) = some w) (hleaves : o.leaves w = w) (value : Json) :
    write value path v = { value := v, obstacle := some o } := by
  obtain ⟨left, hfront, hwrite⟩ := write_of_first h
  rw [standing_of_at? hat, hleaves, write_self hv hat] at hfront
  cases hfront
  exact hwrite value

/-- A write succeeds exactly if nothing is in the way of any segment of its path. -/
theorem obstacle_eq_none_iff :
    (write value path v).obstacle = none ↔ ∀ k o, ¬v.InTheWay path k o := by
  constructor
  · intro h k o ho
    obtain ⟨j, o', hfirst⟩ := ho.exists_first
    obtain ⟨left, -, hwrite⟩ := write_of_first hfirst
    rw [hwrite] at h
    cases h
  · intro h
    induction path generalizing v with
    | nil => rfl
    | cons segment path ih =>
      have hfree : Free v segment := fun o ho => h 0 o (inTheWay_zero.mpr ho)
      rw [write_of_free hfree]
      exact ih fun k o ho => h (k + 1) o (inTheWay_succ.mpr ho)

/-! ## §3 Growth -/

/-- What a write may make of a list: one item is replaced, or some nulls are appended and one item
behind them. -/
inductive Grown (items : List Json) : List Json → Prop
  | replaced (position : Nat) (slot : Json) : Grown items (items.set position slot)
  | appended {nulls : Nat} (hnulls : nulls ≤ maxPadding) (slot : Json) :
      Grown items (items ++ List.replicate nulls .null ++ [slot])

theorem grown_refl (items : List Json) : Grown items items := by
  have hsame : items.set items.length .null = items :=
    List.set_eq_of_length_le (Nat.le_refl items.length)
  have hgrown : Grown items (items.set items.length .null) := .replaced items.length .null
  rwa [hsame] at hgrown

theorem grown_set_pad {items : List Json} {position : Nat}
    (hnear : position ≤ items.length + maxPadding) (slot : Json) :
    Grown items ((pad items position).set position slot) := by
  rcases Nat.lt_or_ge position items.length with hlt | hge
  · rw [pad_of_lt hlt]
    exact .replaced position slot
  · obtain ⟨nulls, rfl⟩ := Nat.exists_eq_add_of_le hge
    have hpad : pad items (items.length + nulls) =
        items ++ List.replicate nulls Json.null ++ [Json.null] := by
      rw [pad, Nat.add_assoc, Nat.add_sub_cancel_left, List.replicate_succ', List.append_assoc]
    have hset : (items ++ List.replicate nulls Json.null ++ [Json.null]).set
        (items.length + nulls) slot = items ++ List.replicate nulls Json.null ++ [slot] := by
      rw [List.set_append_right _ _ (by simp)]
      simp
    rw [hpad, hset]
    exact .appended (Nat.le_of_add_le_add_left hnear) slot

/-- A list that is not part of the written value has grown by one write at most. -/
theorem grown_of_write {front : Path} {after : List Json}
    (h : (write value path v).obstacle = none) (hfront : ¬path <+: front)
    (hafter : (write value path v).value.at? front = some (.arr after)) :
    ∃ before, asItems? (v.standing front) = some before ∧ Grown before after := by
  by_cases hpath : front <+: path
  · obtain ⟨rest, rfl⟩ := hpath
    cases rest with
    | nil =>
      rw [List.append_nil] at hfront
      exact absurd (List.prefix_refl front) hfront
    | cons segment rest =>
      obtain ⟨hclear, hwritten⟩ := at?_write_append h
      have hfree := (free_of_write hclear).1
      have hlist := hwritten []
      rw [List.append_nil, hafter, at?_nil, write_of_free hfree] at hlist
      cases segment with
      | key name => cases hlist
      | index position =>
        obtain ⟨before, hbefore, hnear⟩ := hfree.exists_items
        rw [put, hbefore, Option.getD_some] at hlist
        cases hlist
        exact ⟨before, hbefore, grown_set_pad hnear _⟩
  · obtain ⟨hpadded, hsame⟩ := at?_write_beside h hfront hpath
    by_cases hfilled : Filled v path front
    · rw [(hpadded hfilled).2] at hafter
      cases hafter
    · rw [hsame hfilled] at hafter
      refine ⟨after, ?_, grown_refl after⟩
      rw [standing, hafter]
      rfl

end Json

/-! ## §4 Stores -/

namespace Store

open Json (Obstacle)

variable {s : Store} {text : String} {path : Path} {value : Json} {k : Nat}

theorem set_of_read? (hread : Path.read? text = some path) (s : Store) (value : Json) :
    s.set text value =
      (⟨(Json.write value path s.root).value⟩,
        (Json.write value path s.root).obstacle.map (.obstacle text)) := by
  rw [set, hread]

/-- A collision leaves the store as it was. -/
theorem set_of_collision {segment : Segment} (hs : s.Ordered)
    (hread : Path.read? text = some path) (h : s.root.First path k (.collision segment)) :
    s.set text value = (s, some (.obstacle text (.collision segment))) := by
  obtain ⟨next, -, hblocks⟩ := h.inTheWay
  obtain ⟨w, hat⟩ : ∃ w, s.root.at? (path.take k) = some w := by
    rw [← Option.ne_none_iff_exists']
    intro hnone
    cases hblocks with
    | collision hnull =>
      rw [Json.standing, hnone] at hnull
      exact hnull rfl
  rw [set_of_read? hread, Json.write_of_first_of_at? hs h hat rfl]
  rfl

/-- An index that is too far for a list leaves the store as it was; where there is no list, it
leaves what writing an empty one leaves. -/
theorem set_of_tooFar {position length : Nat} (hs : s.Ordered)
    (hread : Path.read? text = some path) (h : s.root.First path k (.tooFar position length))
    (value : Json) :
    ∃ left, s.set text value = (left, some (.obstacle text (.tooFar position length))) ∧
      ((∃ items, s.root.at? (path.take k) = some (.arr items)) → left = s) ∧
      ((¬∃ items, s.root.at? (path.take k) = some (.arr items)) →
        Json.write (.arr []) (path.take k) s.root = { value := left.root }) := by
  obtain ⟨left, hfront, hwrite⟩ := Json.write_of_first h
  refine ⟨⟨left⟩, ?_, ?_, ?_⟩
  · rw [set_of_read? hread, hwrite]
    rfl
  · rintro ⟨items, hat⟩
    have hsame := Json.write_of_first_of_at? hs h hat rfl value
    rw [hwrite, Json.Written.mk.injEq] at hsame
    rw [hsame.1]
  · intro hnone
    have hnull : s.root.standing (path.take k) = .null := by
      obtain ⟨segment, -, hblocks⟩ := h.inTheWay
      cases hblocks with
      | tooFar hitems =>
        rcases hitems with hlist | ⟨hnull, -⟩
        · rw [Json.standing, Option.getD_eq_iff] at hlist
          exact absurd ⟨_, hlist.resolve_right fun hr => by cases hr.2⟩ hnone
        · exact hnull
    rw [hnull] at hfront
    exact hfront

/-- A write fails exactly if its path is malformed or something is in the way of one of its
segments. The first such position tells what is left: the store as it was, but for an index that is
too far where there is no list yet, which leaves the store that writing an empty list there gives. A
write that succeeds appends no more than `maxPadding` nulls and one item to any list. -/
theorem set_outcome (hs : s.Ordered) (text : String) (value : Json) :
    ((s.set text value).2 ≠ none ↔
      Path.read? text = none ∨
        ∃ path k o, Path.read? text = some path ∧ s.root.InTheWay path k o) ∧
    (Path.read? text = none → s.set text value = (s, some (.invalidPath text))) ∧
    ∀ path, Path.read? text = some path →
      (∀ k segment, s.root.First path k (.collision segment) →
        s.set text value = (s, some (.obstacle text (.collision segment)))) ∧
      (∀ k position length, s.root.First path k (.tooFar position length) →
        ∃ left, s.set text value = (left, some (.obstacle text (.tooFar position length))) ∧
          ((∃ items, s.root.at? (path.take k) = some (.arr items)) → left = s) ∧
          ((¬∃ items, s.root.at? (path.take k) = some (.arr items)) →
            Json.write (.arr []) (path.take k) s.root = { value := left.root } ∧
            ∀ shorter, Path.read? shorter = some (path.take k) →
              s.set shorter (.arr []) = (left, none))) ∧
      ((s.set text value).2 = none →
        ∀ front after, ¬path <+: front →
          (s.set text value).1.root.at? front = some (.arr after) →
          ∃ before, Json.asItems? (s.root.standing front) = some before ∧
            Json.Grown before after) := by
  refine ⟨?_, fun hnone => by rw [set, hnone], fun path hread => ⟨?_, ?_, ?_⟩⟩
  · cases hread : Path.read? text with
    | none => simp [set, hread]
    | some path =>
      rw [set_of_read? hread, Ne, Option.map_eq_none_iff, Json.obstacle_eq_none_iff]
      simp
  · exact fun k segment h => set_of_collision hs hread h
  · intro k position length h
    obtain ⟨left, hset, hsame, hempty⟩ := set_of_tooFar hs hread h value
    refine ⟨left, hset, hsame, fun hnone => ⟨hempty hnone, fun shorter hshorter => ?_⟩⟩
    rw [set_of_read? hshorter, hempty hnone]
    rfl
  · intro hclear front after hfront hafter
    rw [set_of_read? hread] at hclear hafter
    exact Json.grown_of_write (Option.map_eq_none_iff.mp hclear) hfront hafter

/-- An index far behind a list that is not there yet: the write fails and leaves an empty list. -/
theorem set_outcome_list :
    let s : Store := ⟨.obj [("model", .obj [("rows", .arr [.bool true])])]⟩
    (s.set "model.list[1025].name" .null).2 ≠ none ∧
      s.set "model.list" (.arr []) = ((s.set "model.list[1025].name" .null).1, none) := by
  intro s
  have htext : Json.read? "\x7b\"model\": \x7b\"rows\": [true]\x7d\x7d" =
      some s.root := by decide +kernel
  have hs : s.Ordered := Json.ordered_of_read? htext
  have hread : Path.read? "model.list[1025].name" =
      some [.key "model", .key "list", .index 1025, .key "name"] := by decide
  have hfirst : s.root.First [.key "model", .key "list", .index 1025, .key "name"] 2
      (.tooFar 1025 0) := by
    refine ⟨⟨_, rfl, .tooFar (.inr ⟨rfl, rfl⟩) (by decide)⟩, ?_⟩
    rintro j hj o ⟨segment, hsegment, hblocks⟩
    -- an object stands under both keys before the index
    have hobject : ∀ {name : String} {fields : List (String × Json)},
        ¬Json.Blocks (.obj fields) (.key name) o := by
      intro name fields ho
      cases ho with
      | collision hnull hkind => exact hkind ⟨fields, rfl⟩
    match j, hj with
    | 0, _ | 1, _ =>
      cases hsegment
      exact hobject hblocks
  obtain ⟨hfails, -, hpath⟩ := set_outcome hs "model.list[1025].name" .null
  obtain ⟨-, hfar, -⟩ := hpath _ hread
  obtain ⟨left, hset, -, hempty⟩ := hfar 2 1025 0 hfirst
  have hnolist : ¬∃ items, s.root.at? [.key "model", .key "list"] = some (.arr items) := by
    rintro ⟨items, hitems⟩
    cases hitems
  refine ⟨hfails.mpr (.inr ⟨_, 2, _, hread, hfirst.inTheWay⟩), ?_⟩
  rw [hset]
  exact (hempty hnolist).2 "model.list" (by decide)

end Store

end TaskFlow
