/-
TaskFlow.Proofs.Plugin.Rows — rows made of columns, and columns added to rows.

A table by columns is turned into rows column by column, while merging goes row by row and lays one
set of columns after the other over each row. Both come to the same: the row at a position is the
empty row with the items at that position laid over it (`getD_rowsOf`), so a cell of the result is
read off by one fact on `withItems`.

  §1 Cells     — `item?`, and what a row holds once items are laid over it.
  §2 Rows      — the number of rows and the row at a position.
  §3 Additions — several sets of columns; the last one that has a column decides.
  §4 Plugins   — one call against two, `listOfMap_stepwise`.
-/
import Mathlib.Data.List.Induction
import TaskFlow.Plugin.Builtin
import TaskFlow.Proofs.Json.Order

namespace TaskFlow.Plugin.Rows

open TaskFlow TaskFlow.Plugin

variable {columns row : Row} {rows : List Row} {items : List Value} {key : String} {value : Value}
  {position size : Nat} {args rest : List Value}

/-! ## §1 Cells -/

/-- The item at a position of a value, if it is a list that long. -/
def itemAt? (position : Nat) : Value → Option Value
  | .sequence items => items[position]?
  | _ => none

/-- The item at a position of the column under a key, if there is a list that long. -/
def item? (columns : Row) (position : Nat) (key : String) : Option Value :=
  (Dictionary.get? key columns).bind (itemAt? position)

/-- The row with the item at a position of one entry. -/
def withItem (position : Nat) (row : Row) (entry : String × Value) : Row :=
  match itemAt? position entry.2 with
  | some item => Dictionary.insert entry.1 item row
  | none => row

theorem withItems_eq : withItems position row columns = columns.foldl (withItem position) row := by
  rw [withItems]
  congr
  funext row entry
  obtain ⟨key, value⟩ := entry
  cases value <;> rfl

theorem sorted_withItem (h : Dictionary.Sorted row) (entry : String × Value) :
    Dictionary.Sorted (withItem position row entry) := by
  rw [withItem]
  split
  · exact Dictionary.sorted_insert h _ _
  · exact h

theorem sorted_withItems (h : Dictionary.Sorted row) (columns : Row) :
    Dictionary.Sorted (withItems position row columns) := by
  rw [withItems_eq]
  exact List.foldlRecOn columns _ h fun _ hrow entry _ => sorted_withItem hrow entry

theorem get?_withItem_self : Dictionary.get? key (withItem position row (key, value)) =
    (itemAt? position value).or (Dictionary.get? key row) := by
  rw [withItem]
  cases itemAt? position value with
  | none => rfl
  | some item => exact Dictionary.get?_insert_self key item row

theorem get?_withItem_of_ne {other : String} (h : key ≠ other) :
    Dictionary.get? key (withItem position row (other, value)) = Dictionary.get? key row := by
  rw [withItem]
  cases itemAt? position value with
  | none => rfl
  | some item => exact Dictionary.get?_insert_of_ne h item row

/-- Where the columns have an item, the row holds it; elsewhere it is as it was. -/
theorem get?_withItems (hsorted : Dictionary.Sorted columns) :
    Dictionary.get? key (withItems position row columns) =
      (item? columns position key).or (Dictionary.get? key row) := by
  rw [withItems_eq, item?]
  induction columns generalizing row with
  | nil => rfl
  | cons entry others ih =>
    obtain ⟨name, value⟩ := entry
    rw [List.foldl_cons, ih hsorted.tail, Dictionary.get?]
    split
    · next heq =>
      -- the key does not occur again
      subst heq
      rw [Dictionary.get?_of_sorted_cons hsorted, get?_withItem_self]
      rfl
    · next hne => rw [get?_withItem_of_ne (Ne.symm hne)]

/-! ## §2 Rows -/

theorem length_addColumn : (addColumn key rows items).length = max rows.length items.length := by
  fun_induction addColumn key rows items with
  | case1 rows => simp
  | case2 item items ih => simp [ih]
  | case3 row rows item items ih => simp [ih, Nat.succ_max_succ]

/-- A column reaches as many rows as it has items; missing rows are empty before. -/
theorem getD_addColumn : (addColumn key rows items)[position]?.getD [] =
    withItem position (rows[position]?.getD []) (key, .sequence items) := by
  fun_induction addColumn key rows items generalizing position with
  | case1 rows => rfl
  | case2 item items ih =>
    cases position with
    | zero => rfl
    | succ position => simpa [withItem, itemAt?] using @ih position
  | case3 row rows item items ih =>
    cases position with
    | zero => rfl
    | succ position => simpa [withItem, itemAt?] using @ih position

/-- The rows with one more entry of a set of columns. -/
def addEntry (rows : List Row) (entry : String × Value) : List Row :=
  match entry.2 with
  | .sequence items => addColumn entry.1 rows items
  | _ => rows

theorem rowsOf_eq (columns : Row) : rowsOf columns = columns.foldl addEntry [] := rfl

theorem getD_addEntry (entry : String × Value) : (addEntry rows entry)[position]?.getD [] =
    withItem position (rows[position]?.getD []) entry := by
  obtain ⟨key, value⟩ := entry
  cases value with
  | sequence items => exact getD_addColumn
  | _ => rfl

/-- The row at a position is the empty row with the items at the position laid over it. -/
theorem getD_rowsOf (columns : Row) (position : Nat) :
    (rowsOf columns)[position]?.getD [] = withItems position [] columns := by
  have hfold : ∀ rows, (columns.foldl addEntry rows)[position]?.getD [] =
      columns.foldl (withItem position) (rows[position]?.getD []) := by
    induction columns with
    | nil => exact fun _ => rfl
    | cons entry others ih =>
      intro rows
      rw [List.foldl_cons, List.foldl_cons, ih, getD_addEntry]
  rw [rowsOf_eq, hfold, withItems_eq]
  rfl

theorem lt_length_addEntry (entry : String × Value) : position < (addEntry rows entry).length ↔
    position < rows.length ∨ ∃ items, entry.2 = .sequence items ∧ position < items.length := by
  obtain ⟨key, value⟩ := entry
  cases value with
  | sequence items =>
    simp only [addEntry, length_addColumn, Value.sequence.injEq, exists_eq_left']
    omega
  | _ => simp [addEntry]

/-- There is a row at a position exactly if there is a list that long. -/
theorem lt_length_rowsOf : position < (rowsOf columns).length ↔
    ∃ key items, (key, .sequence items) ∈ columns ∧ position < items.length := by
  have hfold : ∀ rows, position < (columns.foldl addEntry rows).length ↔
      position < rows.length ∨
        ∃ key items, (key, .sequence items) ∈ columns ∧ position < items.length := by
    induction columns with
    | nil => simp
    | cons entry others ih =>
      intro rows
      obtain ⟨name, value⟩ := entry
      rw [List.foldl_cons, ih, lt_length_addEntry, or_assoc]
      refine or_congr_right ?_
      constructor
      · rintro (⟨items, rfl, hlt⟩ | ⟨key, items, hmem, hlt⟩)
        · exact ⟨name, items, List.mem_cons_self, hlt⟩
        · exact ⟨key, items, List.mem_cons_of_mem _ hmem, hlt⟩
      · rintro ⟨key, items, hmem, hlt⟩
        rcases List.mem_cons.mp hmem with heq | hmem
        · cases heq
          exact .inl ⟨items, rfl, hlt⟩
        · exact .inr ⟨key, items, hmem, hlt⟩
  rw [rowsOf_eq, hfold]
  simp

theorem rowsOf_eq_nil_iff :
    rowsOf columns = [] ↔ ∀ key items, (key, .sequence items) ∈ columns → items = [] := by
  rw [← not_iff_not, ← ne_eq, ← List.length_pos_iff, lt_length_rowsOf]
  simp only [not_forall, List.length_pos_iff, exists_prop]

/-! ## §3 Additions -/

/-- Every entry is a list of exactly `size` items. -/
def Aligned (size : Nat) (columns : Row) : Prop :=
  ∀ key value, (key, value) ∈ columns → ∃ items, value = .sequence items ∧ items.length = size

theorem isAligned_iff : isAligned size columns = true ↔ Aligned size columns := by
  rw [isAligned, List.all_eq_true]
  constructor
  · intro h key value hmem
    have hentry := h _ hmem
    cases value with
    | sequence items => exact ⟨items, rfl, beq_iff_eq.mp hentry⟩
    | _ => cases hentry
  · rintro h ⟨key, value⟩ hmem
    obtain ⟨items, rfl, hsize⟩ := h key value hmem
    exact beq_iff_eq.mpr hsize

/-- The maps of lists that the arguments contribute; an argument without one is skipped. -/
def contributions (args : List Value) : List Row := args.filterMap contribution?

/-- Additions are made exactly if there is one and all of them fit. -/
theorem extended_of_aligned (hsome : contributions args ≠ [])
    (haligned : ∀ added ∈ contributions args, Aligned rows.length added) :
    extended rows args = ofRows (addColumns rows (contributions args)) := by
  have hall : (contributions args).all (isAligned rows.length) = true :=
    List.all_eq_true.mpr fun added hmem => isAligned_iff.mpr (haligned added hmem)
  have hfound : contributions? args rows.length = some (contributions args) := if_pos hall
  obtain ⟨first, others, hcons⟩ := List.exists_cons_of_ne_nil hsome
  rw [extended, hfound, hcons]

theorem extended_of_not_aligned (h : ¬(contributions args ≠ [] ∧
    ∀ added ∈ contributions args, Aligned rows.length added)) :
    extended rows args = .sequence [] := by
  rw [extended]
  split
  · next first others hfound =>
    refine absurd ?_ h
    rw [contributions?] at hfound
    split at hfound
    · next hall =>
      have hcons : contributions args = first :: others := Option.some.inj hfound
      exact ⟨hcons ▸ List.cons_ne_nil _ _,
        fun added hmem => isAligned_iff.mp (List.all_eq_true.mp hall added hmem)⟩
    · cases hfound
  · rfl

/-- What stands under a key at a position once the additions are made: the item of the last one that
has the key, or else what stood there. -/
def overlaid (additions : List Row) (before : Option Value) (position : Nat) (key : String) :
    Option Value :=
  match additions.reverse.find? (Dictionary.contains · key) with
  | some added => item? added position key
  | none => before

theorem item?_of_aligned (haligned : Aligned size columns) (hposition : position < size) :
    (item? columns position key).isSome = Dictionary.contains columns key := by
  rw [item?, Dictionary.contains]
  cases h : Dictionary.get? key columns with
  | none => rfl
  | some value =>
    obtain ⟨items, rfl, rfl⟩ := haligned key value (Dictionary.mem_of_get? h)
    simp [itemAt?, hposition]

/-- A row with several additions laid over it, of which the last one comes last. -/
theorem get?_additions {additions : List Row} (hposition : position < size)
    (hsorted : ∀ added ∈ additions, Dictionary.Sorted added)
    (haligned : ∀ added ∈ additions, Aligned size added) :
    Dictionary.get? key (additions.foldl (withItems position) row) =
      overlaid additions (Dictionary.get? key row) position key := by
  induction additions using List.reverseRecOn with
  | nil => rfl
  | append_singleton others last ih =>
    simp only [List.forall_mem_append, List.forall_mem_singleton] at hsorted haligned
    rw [List.foldl_append, List.foldl_cons, List.foldl_nil, get?_withItems hsorted.2,
      ih hsorted.1 haligned.1, overlaid, overlaid, List.reverse_append, List.reverse_singleton,
      List.singleton_append, List.find?_cons, ← item?_of_aligned haligned.2 hposition]
    cases hitem : item? last position key with
    | none => rfl
    | some item => exact hitem.symm

/-! ## §4 Plugins -/

/-- Whatever the first argument is, it has a map of lists or none. -/
theorem listOfMap_cons (v : Value) (rest : List Value) : listOfMap (v :: rest) =
    match contribution? v with
    | none => ofRows []
    | some columns =>
      if rest.isEmpty || (rowsOf columns).isEmpty then ofRows (rowsOf columns)
      else extended (rowsOf columns) rest := by
  cases v <;> rfl

theorem listOfMap_singleton (v : Value) :
    listOfMap [v] = ofRows ((contribution? v).elim [] rowsOf) := by
  rw [listOfMap_cons]
  cases contribution? v <;> rfl

theorem toRows?_map (rows : List Row) : toRows? (rows.map .map) = some rows := by
  induction rows with
  | nil => rfl
  | cons row rows ih => rw [List.map_cons, toRows?, ih, Option.map_some]

/-- The rows that one plugin makes are those that the other takes. -/
theorem updateListOfMap_ofRows (rows : List Row) (rest : List Value) :
    updateListOfMap (ofRows rows :: rest) =
      if rest.isEmpty || rows.isEmpty then ofRows [] else extended rows rest := by
  rw [ofRows, updateListOfMap, toRows?_map, List.isEmpty_map]

/-- Rows with columns added in one go are the rows with the columns added afterwards. -/
theorem listOfMap_cons_cons (v next : Value) (rest : List Value) :
    listOfMap (v :: next :: rest) = updateListOfMap (listOfMap [v] :: next :: rest) := by
  rw [listOfMap_cons, listOfMap_singleton, updateListOfMap_ofRows, List.isEmpty_cons]
  cases contribution? v with
  | none => rfl
  | some columns =>
    simp only [Option.elim_some, Bool.false_or]
    split
    · next hempty => rw [List.isEmpty_iff.mp hempty]
    · rfl

theorem invoke_listOfMap (ambient : Ambient) (args : List Value) :
    Registry.builtin.invoke ambient "listOfMap" args = .ok (listOfMap args) := (rfl)

theorem invoke_updateListOfMap (ambient : Ambient) (args : List Value) :
    Registry.builtin.invoke ambient "updateListOfMap" args = .ok (updateListOfMap args) := (rfl)

/-- Making rows and adding columns in one call agrees with doing it in two, whatever the first
argument is and whatever further ones there are. Neither call fails. -/
theorem listOfMap_stepwise (ambient : Ambient) (v next : Value) (rest : List Value) :
    ∃ rows result, Registry.builtin.invoke ambient "listOfMap" [v] = .ok rows ∧
      Registry.builtin.invoke ambient "listOfMap" (v :: next :: rest) = .ok result ∧
      Registry.builtin.invoke ambient "updateListOfMap" (rows :: next :: rest) = .ok result := by
  refine ⟨_, _, invoke_listOfMap ambient [v], invoke_listOfMap ambient _, ?_⟩
  rw [invoke_updateListOfMap, listOfMap_cons_cons]

end TaskFlow.Plugin.Rows
