/-
TaskFlow.Proofs.Plugin.Transposition — a table by columns and the same table by rows.

Set against what the plugin makes is a table given by its cells: so many rows, and under each key of
a row what a function of position and key says (`Tabulates`). The keys of a row ascend, so the cells
leave nothing open and two tables with the same cells are one. Which cells there are is read off the
columns alone: the items of the lists for one argument (`item?`), and for several the items of the
last argument that has the column (`overlaid`).

  §1 Values — `Value.Ordered`; arguments taken from an ordered element are ordered.
  §2 Tables — `Height` and `Tabulates`, and the tables of rows made and extended.
  §3 Plugin — `Transposed`, and `listOfMap_transposes`.
-/
import Mathlib.Order.Bounds.Basic
import TaskFlow.Proofs.Plugin.Search

namespace TaskFlow.Plugin

open TaskFlow

/-! ## §1 Values -/

namespace Value

/-- The keys of every map in the value ascend. -/
inductive Ordered : Value → Prop
  | null : Ordered .null
  | boolean (b : Bool) : Ordered (.boolean b)
  | integer (n : Int64) : Ordered (.integer n)
  | float (x : Binary.Double) : Ordered (.float x)
  | text (s : String) : Ordered (.text s)
  | sequence {items : List Value} (hitems : ∀ v ∈ items, Ordered v) : Ordered (.sequence items)
  | map {fields : List (String × Value)} (hsorted : Dictionary.Sorted fields)
      (hfields : ∀ entry ∈ fields, Ordered entry.2) : Ordered (.map fields)

variable {fields : List (String × Value)}

theorem Ordered.sorted (h : Ordered (.map fields)) : Dictionary.Sorted fields := by
  cases h with
  | map hsorted => exact hsorted

theorem Ordered.field {entry : String × Value} (h : Ordered (.map fields))
    (hmem : entry ∈ fields) : entry.2.Ordered := by
  cases h with
  | map hsorted hfields => exact hfields entry hmem

theorem Ordered.item {items : List Value} {v : Value} (h : Ordered (.sequence items))
    (hmem : v ∈ items) : v.Ordered := by
  cases h with
  | sequence hitems => exact hitems v hmem

theorem ofItems_eq (items : List Json) : ofItems items = items.map ofJson := by
  induction items with
  | nil => rfl
  | cons v items ih => rw [ofItems, ih, List.map_cons]

theorem ofFields_eq (fields : List (String × Json)) :
    ofFields fields = fields.map fun entry => (entry.1, ofJson entry.2) := by
  induction fields with
  | nil => rfl
  | cons entry fields ih => rw [ofFields, ih, List.map_cons]

/-- An element whose objects are in order is an argument whose maps are. -/
theorem ordered_ofJson {v : Json} (h : v.Ordered) : (ofJson v).Ordered := by
  induction h with
  | null => exact .null
  | bool b => exact .boolean b
  | num n =>
    rw [ofJson]
    split
    · exact .integer _
    · exact .float _
  | str s => exact .text s
  | arr _ ih =>
    rw [ofJson, ofItems_eq]
    exact .sequence (List.forall_mem_map.mpr ih)
  | obj hsorted _ ih =>
    rw [ofJson, ofFields_eq]
    exact .map (List.pairwise_map.mpr hsorted) (List.forall_mem_map.mpr ih)

end Value

namespace Rows

variable {fields columns row : Row} {rows rows' : List Row} {additions : List Row} {key : String}
  {position size : Nat} {args rest : List Value} {v : Value}
  {cell : Nat → String → Option Value}

theorem Reaches.ordered (h : Reaches fields columns) (hfields : (Value.map fields).Ordered) :
    (Value.map columns).Ordered := by
  induction h with
  | refl => exact hfields
  | inner hentry _ ih => exact ih (hfields.field hentry)

/-- The columns that the search finds in an ordered value are ordered. -/
theorem ordered_of_contribution? (hv : v.Ordered) (h : contribution? v = some columns) :
    (Value.map columns).Ordered := by
  cases v with
  | map fields => exact (mapOfLists?_eq_some_iff.mp h).sound.1.ordered hv
  | _ => cases h

theorem ordered_of_mem_contributions (hargs : ∀ v ∈ args, v.Ordered)
    (hmem : columns ∈ contributions args) : (Value.map columns).Ordered := by
  obtain ⟨v, hv, hfound⟩ := List.mem_filterMap.mp hmem
  exact ordered_of_contribution? (hargs v hv) hfound

/-! ## §2 Tables -/

/-- The longest list among the columns has this length. -/
def Height (columns : Row) (size : Nat) : Prop :=
  IsGreatest {n | ∃ key items, (key, .sequence items) ∈ columns ∧ items.length = n} size

theorem height_rowsOf (h : HoldsList columns) : Height columns (rowsOf columns).length := by
  have hle : ∀ key items, (key, .sequence items) ∈ columns →
      items.length ≤ (rowsOf columns).length := by
    intro key items hmem
    by_contra hlonger
    exact Nat.lt_irrefl _ (lt_length_rowsOf.mpr ⟨key, items, hmem, Nat.lt_of_not_le hlonger⟩)
  refine ⟨?_, ?_⟩
  · cases hlength : (rowsOf columns).length with
    | zero =>
      obtain ⟨key, items, hmem⟩ := h
      exact ⟨key, items, hmem, Nat.le_zero.mp (hlength ▸ hle key items hmem)⟩
    | succ last =>
      obtain ⟨key, items, hmem, hlt⟩ :=
        lt_length_rowsOf.mp (hlength ▸ Nat.lt_succ_self last : last < (rowsOf columns).length)
      exact ⟨key, items, hmem, Nat.le_antisymm (hlength ▸ hle key items hmem) hlt⟩
  · rintro _ ⟨key, items, hmem, rfl⟩
    exact hle key items hmem

/-- The rows are a table with this number of rows and these cells. -/
structure Tabulates (rows : List Row) (size : Nat) (cell : Nat → String → Option Value) :
    Prop where
  size_eq : rows.length = size
  sorted : ∀ row ∈ rows, Dictionary.Sorted row
  cell_eq : ∀ position row, rows[position]? = some row →
    ∀ key, Dictionary.get? key row = cell position key

theorem Tabulates.unique (h : Tabulates rows size cell) (h' : Tabulates rows' size cell) :
    rows = rows' := by
  refine List.ext_getElem (h.size_eq.trans h'.size_eq.symm) fun position hlt hlt' => ?_
  refine Dictionary.ext_of_sorted (h.sorted _ (List.getElem_mem hlt))
    (h'.sorted _ (List.getElem_mem hlt')) fun key => ?_
  rw [h.cell_eq position _ (List.getElem?_eq_getElem hlt),
    h'.cell_eq position _ (List.getElem?_eq_getElem hlt')]

theorem eq_withItems_of_getElem? (h : (rowsOf columns)[position]? = some row) :
    row = withItems position [] columns := by
  rw [← getD_rowsOf, h, Option.getD_some]

theorem sorted_of_mem_rowsOf (hmem : row ∈ rowsOf columns) : Dictionary.Sorted row := by
  obtain ⟨position, hrow⟩ := List.mem_iff_getElem?.mp hmem
  rw [eq_withItems_of_getElem? hrow]
  exact sorted_withItems .nil columns

theorem get?_of_rowsOf (hsorted : Dictionary.Sorted columns)
    (hrow : (rowsOf columns)[position]? = some row) (key : String) :
    Dictionary.get? key row = item? columns position key := by
  rw [eq_withItems_of_getElem? hrow, get?_withItems hsorted, Dictionary.get?_nil, Option.or_none]

/-- The rows of a set of columns hold the items of its lists. -/
theorem tabulates_rowsOf (hsorted : Dictionary.Sorted columns) :
    Tabulates (rowsOf columns) (rowsOf columns).length (item? columns) where
  size_eq := rfl
  sorted := fun _ => sorted_of_mem_rowsOf
  cell_eq := fun _ _ => get?_of_rowsOf hsorted

/-- The cells of a set of columns with further ones over it. -/
def extendedCell (columns : Row) (additions : List Row) (position : Nat) (key : String) :
    Option Value :=
  overlaid additions (item? columns position key) position key

theorem sorted_foldl_withItems (h : Dictionary.Sorted row) (additions : List Row) :
    Dictionary.Sorted (additions.foldl (withItems position) row) :=
  List.foldlRecOn additions _ h fun _ hrow added _ => sorted_withItems hrow added

/-- Rows with further columns hold the items of the last set that has the column. -/
theorem tabulates_addColumns (hsorted : Dictionary.Sorted columns)
    (hadditions : ∀ added ∈ additions, Dictionary.Sorted added)
    (haligned : ∀ added ∈ additions, Aligned (rowsOf columns).length added) :
    Tabulates (addColumns (rowsOf columns) additions) (rowsOf columns).length
      (extendedCell columns additions) where
  size_eq := List.length_mapIdx
  sorted := by
    intro row hmem
    obtain ⟨position, hlt, rfl⟩ := List.mem_mapIdx.mp hmem
    exact sorted_foldl_withItems (sorted_of_mem_rowsOf (List.getElem_mem hlt)) additions
  cell_eq := by
    intro position row hrow key
    rw [addColumns, List.getElem?_mapIdx] at hrow
    obtain ⟨before, hbefore, rfl⟩ := Option.map_eq_some_iff.mp hrow
    have hposition : position < (rowsOf columns).length :=
      (List.getElem?_eq_some_iff.mp hbefore).1
    rw [get?_additions hposition hadditions haligned, get?_of_rowsOf hsorted hbefore, extendedCell]

/-! ## §3 Plugin -/

/-- What `listOfMap` makes of the map of lists in its first argument and of further arguments. -/
inductive Transposed (columns : Row) (rest : List Value) : Value → Prop
  | alone {rows : List Row} {size : Nat} (hrest : rest = []) (hsize : Height columns size)
      (hrows : Tabulates rows size (item? columns)) : Transposed columns rest (ofRows rows)
  | extended {rows : List Row} {size : Nat} (hrest : rest ≠ []) (hsize : Height columns size)
      (hpos : 0 < size) (hsome : contributions rest ≠ [])
      (haligned : ∀ added ∈ contributions rest, Aligned size added)
      (hrows : Tabulates rows size (extendedCell columns (contributions rest))) :
      Transposed columns rest (ofRows rows)
  | empty {size : Nat} (hrest : rest ≠ []) (hsize : Height columns size)
      (hnone : ¬(0 < size ∧ contributions rest ≠ [] ∧
        ∀ added ∈ contributions rest, Aligned size added)) :
      Transposed columns rest (.sequence [])

theorem Transposed.unique {result result' : Value} (h : Transposed columns rest result)
    (h' : Transposed columns rest result') : result = result' := by
  have hheight : ∀ {n m : Nat}, Height columns n → Height columns m → n = m :=
    fun hn hm => IsGreatest.unique hn hm
  cases h with
  | alone hrest hsize hrows =>
    cases h' with
    | alone _ hsize' hrows' =>
      obtain rfl := hheight hsize hsize'
      rw [hrows.unique hrows']
    | extended hrest' => exact absurd hrest hrest'
    | empty hrest' => exact absurd hrest hrest'
  | extended hrest hsize hpos hsome haligned hrows =>
    cases h' with
    | alone hrest' => exact absurd hrest' hrest
    | extended _ hsize' _ _ _ hrows' =>
      obtain rfl := hheight hsize hsize'
      rw [hrows.unique hrows']
    | empty _ hsize' hnone =>
      obtain rfl := hheight hsize hsize'
      exact absurd ⟨hpos, hsome, haligned⟩ hnone
  | empty hrest hsize hnone =>
    cases h' with
    | alone hrest' => exact absurd hrest' hrest
    | extended _ hsize' hpos hsome haligned =>
      obtain rfl := hheight hsize hsize'
      exact absurd ⟨hpos, hsome, haligned⟩ hnone
    | empty => rfl

/-- The plugin with a map of lists that is found in its first argument. -/
theorem listOfMap_of_found (hfound : mapOfLists? fields = some columns) (hrest : rest ≠ []) :
    listOfMap (.map fields :: rest) =
      if rowsOf columns = [] then .sequence [] else extended (rowsOf columns) rest := by
  rw [listOfMap_cons, contribution?, hfound]
  simp only [List.isEmpty_eq_false_iff.mpr hrest, Bool.false_or, List.isEmpty_iff]
  split
  · next hempty => rw [hempty, ofRows, List.map_nil]
  · rfl

theorem transposed_listOfMap (hargs : ∀ v ∈ Value.map fields :: rest, v.Ordered)
    (hfound : mapOfLists? fields = some columns) :
    Transposed columns rest (listOfMap (.map fields :: rest)) := by
  obtain ⟨hfields, hothers⟩ := List.forall_mem_cons.mp hargs
  have hsorted := (ordered_of_contribution? hfields hfound).sorted
  have hheight := height_rowsOf (mapOfLists?_eq_some_iff.mp hfound).sound.2
  have hadditions : ∀ added ∈ contributions rest, Dictionary.Sorted added :=
    fun _ hmem => (ordered_of_mem_contributions hothers hmem).sorted
  by_cases hrest : rest = []
  · rw [hrest, listOfMap_singleton, contribution?, hfound, Option.elim_some]
    exact .alone rfl hheight (tabulates_rowsOf hsorted)
  · rw [listOfMap_of_found hfound hrest]
    split
    · next hempty =>
      refine .empty hrest hheight fun h => ?_
      rw [hempty] at h
      exact Nat.lt_irrefl 0 h.1
    · next hrows =>
      by_cases hall : contributions rest ≠ [] ∧
          ∀ added ∈ contributions rest, Aligned (rowsOf columns).length added
      · rw [extended_of_aligned hall.1 hall.2]
        exact .extended hrest hheight (List.length_pos_iff.mpr hrows) hall.1 hall.2
          (tabulates_addColumns hsorted hadditions hall.2)
      · rw [extended_of_not_aligned hall]
        exact .empty hrest hheight fun h => hall h.2

/-- The map of lists in the first argument is turned into rows without loss: as many as the longest
list is long, each with the items of the lists that reach so far. Further arguments lay their
columns over these rows if there are any rows, any columns, and all of them fit; otherwise nothing
is left. -/
theorem listOfMap_transposes (hargs : ∀ v ∈ Value.map fields :: rest, v.Ordered)
    (hfound : mapOfLists? fields = some columns) (result : Value) :
    listOfMap (.map fields :: rest) = result ↔ Transposed columns rest result := by
  have htransposed := transposed_listOfMap hargs hfound
  exact ⟨fun h => h ▸ htransposed, htransposed.unique⟩

/-- Columns of different lengths and a number beside them, with the shorter column replaced by that
of an argument behind one that is skipped. -/
theorem listOfMap_transposes_ragged :
    let fields : Row :=
      [("a", .sequence [.integer 1, .integer 2]), ("b", .sequence [.text "x"]), ("n", .integer 7)]
    let rest : List Value := [.boolean true, .map [("b", .sequence [.text "u", .text "v"])]]
    let result : Value := .sequence [.map [("a", .integer 1), ("b", .text "u")],
      .map [("a", .integer 2), ("b", .text "v")]]
    listOfMap (.map fields :: rest) = result ∧ Transposed fields rest result := by
  intro fields rest result
  have htext : Json.read?
      "[\x7b\"a\": [1, 2], \"b\": [\"x\"], \"n\": 7\x7d, true, \x7b\"b\": [\"u\", \"v\"]\x7d]" =
      some (.arr [.obj [("a", .arr [.ofNat 1, .ofNat 2]), ("b", .arr [.str "x"]), ("n", .ofNat 7)],
        .bool true, .obj [("b", .arr [.str "u", .str "v"])]]) := by
    decide +kernel
  have hitems : (Value.sequence (.map fields :: rest)).Ordered :=
    Value.ordered_ofJson (Json.ordered_of_read? htext)
  have hargs : ∀ v ∈ Value.map fields :: rest, v.Ordered := fun _ hmem => hitems.item hmem
  have hfound : mapOfLists? fields = some fields := by simp [fields, mapOfLists?, columnsOf?]
  have hadded : contributions rest = [[("b", .sequence [.text "u", .text "v"])]] := by
    simp [rest, contributions, List.filterMap_cons, contribution?, mapOfLists?, columnsOf?]
  have haligned : ∀ added ∈ contributions rest, Aligned (rowsOf fields).length added := by
    simp [hadded, Aligned, fields, rowsOf, addColumn]
  have hresult : listOfMap (.map fields :: rest) = result := by
    rw [listOfMap_of_found hfound (List.cons_ne_nil _ _),
      if_neg (by simp [fields, rowsOf, addColumn]), extended_of_aligned (by simp [hadded]) haligned,
      hadded]
    rfl
  exact ⟨hresult, (listOfMap_transposes hargs hfound result).mp hresult⟩

end Rows

end TaskFlow.Plugin
