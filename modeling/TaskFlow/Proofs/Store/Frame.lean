/-
TaskFlow.Proofs.Store.Frame — what is read after a write.

A write that succeeds is seen at its own path and below, where the written value stands, and nowhere
beside it, with one exception: a list that grows is padded with null before the written slot. Which
slots these are is told from the value before the write alone (`Filled`).

  §1 Padding — `Filled`, along the common part of two paths.
  §2 Frame   — two paths that part from each other.
  §3 Stores  — the same for the texts of paths.
-/
import TaskFlow.Proofs.Store.Steps

namespace TaskFlow

namespace Json

variable {v : Json}

/-! ## §1 Padding -/

/-- A write at `path` puts null where `other` leads: behind a common part, `other` is one index
more, and a smaller one than that of `path`, at or past the end of the list there, if any. -/
def Filled (v : Json) (path other : Path) : Prop :=
  ∃ front segment rest slot, path = front ++ segment :: rest ∧ other = front ++ [slot] ∧
    Pads (v.standing front) segment slot

theorem Pads.ne {segment other : Segment} (h : Pads v segment other) : other ≠ segment := by
  rintro rfl
  cases other with
  | key name => exact h
  | index position => exact absurd h.1 (Nat.lt_irrefl _)

theorem filled_cons_self {segment : Segment} {path other : Path} :
    Filled v (segment :: path) (segment :: other) ↔
      Filled (v.standing [segment]) path other := by
  constructor
  · rintro ⟨front, next, rest, slot, hpath, hother, hpads⟩
    cases front with
    | nil =>
      cases hpath
      cases hother
      exact absurd rfl hpads.ne
    | cons first front =>
      rw [List.cons_append, List.cons.injEq] at hpath hother
      obtain ⟨rfl, rfl⟩ := hpath
      rw [standing_cons] at hpads
      exact ⟨front, next, rest, slot, rfl, hother.2, hpads⟩
  · rintro ⟨front, next, rest, slot, rfl, rfl, hpads⟩
    rw [← standing_cons] at hpads
    exact ⟨segment :: front, next, rest, slot, rfl, rfl, hpads⟩

theorem filled_cons_of_ne {segment slot : Segment} {path other : Path} (hne : slot ≠ segment) :
    Filled v (segment :: path) (slot :: other) ↔ other = [] ∧ Pads v segment slot := by
  constructor
  · rintro ⟨front, next, rest, last, hpath, hother, hpads⟩
    cases front with
    | nil =>
      cases hpath
      cases hother
      rw [standing_nil] at hpads
      exact ⟨rfl, hpads⟩
    | cons first front =>
      rw [List.cons_append, List.cons.injEq] at hpath hother
      exact absurd (hother.1.trans hpath.1.symm) hne
  · rintro ⟨rfl, hpads⟩
    rw [← standing_nil v] at hpads
    exact ⟨[], segment, path, slot, rfl, rfl, hpads⟩

/-! ## §2 Frame -/

/-- A padded slot was not there before the write and is null after it; every other element beside
the path is as it was. -/
theorem at?_write_beside {value : Json} {path other : Path}
    (h : (write value path v).obstacle = none) (hpath : ¬path <+: other)
    (hother : ¬other <+: path) :
    (Filled v path other → v.at? other = none ∧ (write value path v).value.at? other = some .null) ∧
      (¬Filled v path other → (write value path v).value.at? other = v.at? other) := by
  induction path generalizing v other with
  | nil => exact absurd List.nil_prefix hpath
  | cons segment path ih =>
    obtain ⟨hfree, hrest⟩ := free_of_write h
    rw [write_of_free hfree]
    cases other with
    | nil => exact absurd List.nil_prefix hother
    | cons slot other =>
      by_cases hslot : slot = segment
      · subst hslot
        rw [List.cons_prefix_cons] at hpath hother
        have hpath' : ¬path <+: other := fun hp => hpath ⟨rfl, hp⟩
        have hother' : ¬other <+: path := fun hp => hother ⟨rfl, hp⟩
        have hne : other ≠ [] := fun e => hother' (e ▸ List.nil_prefix)
        rw [at?_put_self, at?_cons_of_ne_nil v slot hne, filled_cons_self]
        exact ih hrest hpath' hother'
      · rw [filled_cons_of_ne hslot]
        constructor
        · rintro ⟨rfl, hpads⟩
          exact at?_put_of_pads hfree hpads _ []
        · intro hfilled
          by_cases hpads : Pads v segment slot
          · obtain ⟨next, other, rfl⟩ :=
              List.exists_cons_of_ne_nil fun e => hfilled ⟨e, hpads⟩
            obtain ⟨hbefore, hafter⟩ := at?_put_of_pads hfree hpads
              (write value path (v.standing [segment])).value (next :: other)
            rw [hbefore, hafter, at?_null_cons]
          · exact at?_put_of_ne hfree hslot hpads _ other

end Json

/-! ## §3 Stores -/

namespace Store

/-- After a write, the written value is read at its path and its parts are read below; beside the
path, the slots that were padded read as null, where nothing was before, and everything else reads
as before. -/
theorem get?_set {s t : Store} {text : String} {path : Path} {value : Json}
    (hread : Path.read? text = some path) (hset : s.set text value = (t, none)) :
    t.get? text = some value ∧
      (∀ below rest, Path.read? below = some (path ++ rest) → t.get? below = value.at? rest) ∧
      ∀ beside other, Path.read? beside = some other → ¬path <+: other → ¬other <+: path →
        (s.root.Filled path other → s.get? beside = none ∧ t.get? beside = some .null) ∧
          (¬s.root.Filled path other → t.get? beside = s.get? beside) := by
  have hget : ∀ (u : Store) {query : String} {segments : Path},
      Path.read? query = some segments → u.get? query = u.root.at? segments := by
    intro u query segments hquery
    rw [get?, hquery, Option.bind_some]
  rw [set, hread, Prod.mk.injEq, Option.map_eq_none_iff] at hset
  obtain ⟨rfl, hclear⟩ := hset
  have hbelow : ∀ below rest, Path.read? below = some (path ++ rest) →
      get? ⟨(Json.write value path s.root).value⟩ below = value.at? rest := by
    intro below rest hquery
    have hpath : (Json.write value (path ++ []) s.root).obstacle = none := by
      rw [List.append_nil, hclear]
    have hwritten := (Json.at?_write_append hpath).2 rest
    rw [List.append_nil] at hwritten
    rw [hget _ hquery, hwritten, Json.write]
  refine ⟨?_, hbelow, ?_⟩
  · rw [hbelow text [] (by rw [List.append_nil, hread]), Json.at?_nil]
  · intro beside other hquery hpath hother
    rw [hget _ hquery, hget _ hquery]
    exact Json.at?_write_beside hclear hpath hother

/-- A write behind the end of a list of one item: the two slots before it are padded. -/
theorem get?_set_rows :
    let s : Store := ⟨.obj [("model", .obj [("rows", .arr [.bool true])])]⟩
    let t := (s.set "model.rows[3].name" (.str "x")).1
    t.get? "model.rows[3].name" = some (.str "x") ∧
      (s.get? "model.rows[2]" = none ∧ t.get? "model.rows[2]" = some .null) ∧
      t.get? "model.rows[0]" = s.get? "model.rows[0]" := by
  intro s t
  have hread : Path.read? "model.rows[3].name" =
      some [.key "model", .key "rows", .index 3, .key "name"] := by decide
  have hset : s.set "model.rows[3].name" (.str "x") = (t, none) := rfl
  have hparts : ∀ n : Nat, n ≠ 3 →
      ¬[.key "model", .key "rows", .index 3, .key "name"] <+:
          [.key "model", .key "rows", Segment.index n] ∧
        ¬[.key "model", .key "rows", Segment.index n] <+:
          [.key "model", .key "rows", .index 3, .key "name"] := by
    intro n hn
    simp [List.cons_prefix_cons, hn]
  have hfilled : ∀ n : Nat, n ≠ 3 →
      (s.root.Filled [.key "model", .key "rows", .index 3, .key "name"]
          [.key "model", .key "rows", .index n] ↔
        n < 3 ∧ 1 ≤ n) := by
    intro n hn
    rw [Json.filled_cons_self, Json.filled_cons_self,
      Json.filled_cons_of_ne fun e => hn (Segment.index.inj e)]
    constructor
    · rintro ⟨-, hlt, hlength⟩
      exact ⟨hlt, hlength [.bool true] rfl⟩
    · rintro ⟨hlt, hlength⟩
      refine ⟨rfl, hlt, ?_⟩
      rintro items hitems
      cases hitems
      exact hlength
  obtain ⟨hat, -, hbeside⟩ := get?_set hread hset
  refine ⟨hat, ?_, ?_⟩
  · obtain ⟨hpath, hother⟩ := hparts 2 (by decide)
    refine (hbeside "model.rows[2]" _ (by decide) hpath hother).1 ?_
    exact (hfilled 2 (by decide)).mpr (by decide)
  · obtain ⟨hpath, hother⟩ := hparts 0 (by decide)
    refine (hbeside "model.rows[0]" _ (by decide) hpath hother).2 ?_
    exact fun h => absurd ((hfilled 0 (by decide)).mp h) (by decide)

end Store

end TaskFlow
