/-
TaskFlow.Plugin.Builtin.Rows — columns and rows.

A map of lists is a table by columns, a list of maps the same table by rows.

  §1 Columns — `columnsOf?` looks for a map that holds a list.
  §2 Rows    — `rowsOf` turns columns into rows, `addColumns` adds columns to rows.
  §3 Plugins — listOfMap, updateListOfMap.
-/
import TaskFlow.Plugin.Arity

namespace TaskFlow.Plugin.Rows

open TaskFlow TaskFlow.Plugin

/-- One row, or one set of columns. -/
abbrev Row := List (String × Value)

/-! ## §1 Columns -/

/-- The map that the search for a map of lists comes to. In the order of the keys, the first entry
that is a list ends the search at the whole map, and the first that is a map takes it there. -/
def columnsOf? (whole : Row) : Row → Option Row
  | [] => none
  | (_, .sequence _) :: _ => some whole
  | (_, .map inner) :: _ => columnsOf? inner inner
  | _ :: rest => columnsOf? whole rest

/-- The map of lists that the search finds in a map. -/
def mapOfLists? (fields : Row) : Option Row :=
  columnsOf? fields fields

/-! ## §2 Rows -/

/-- The rows with a column of values under a key; missing rows are made. -/
def addColumn (key : String) : (rows : List Row) → (items : List Value) → List Row
  | rows, [] => rows
  | [], item :: items => Dictionary.insert key item [] :: addColumn key [] items
  | row :: rows, item :: items => Dictionary.insert key item row :: addColumn key rows items

/-- The rows of a set of columns; entries that are no lists are left out. -/
def rowsOf (columns : Row) : List Row :=
  columns.foldl (fun rows entry =>
    match entry.2 with
    | .sequence items => addColumn entry.1 rows items
    | _ => rows) []

/-- Every entry is a list of exactly `size` items. -/
def isAligned (size : Nat) (columns : Row) : Bool :=
  columns.all fun entry =>
    match entry.2 with
    | .sequence items => items.length == size
    | _ => false

/-- The map of lists in an argument, if it is a map with one. -/
def contribution? : Value → Option Row
  | .map fields => mapOfLists? fields
  | _ => none

/-- The maps of lists in the arguments, if all of them fit rows of this number. -/
def contributions? (args : List Value) (size : Nat) : Option (List Row) :=
  let found := args.filterMap contribution?
  if found.all (isAligned size) then some found else none

/-- The row with the items at one position of a set of columns. -/
def withItems (position : Nat) (row columns : Row) : Row :=
  columns.foldl (fun row entry =>
    match entry.2 with
    | .sequence items =>
      match items[position]? with
      | some item => Dictionary.insert entry.1 item row
      | none => row
    | _ => row) row

/-- The rows with the items of all contributions, a later one replacing an earlier one. -/
def addColumns (rows : List Row) (additions : List Row) : List Row :=
  rows.mapIdx fun position row => additions.foldl (withItems position) row

/-- Rows as a value. -/
def ofRows (rows : List Row) : Value :=
  .sequence (rows.map .map)

/-- The rows of a value, if it is a list of maps. -/
def toRows? : List Value → Option (List Row)
  | [] => some []
  | .map row :: rest => (toRows? rest).map (row :: ·)
  | _ :: _ => none

/-- The rows with the columns that further arguments contribute; no rows when there is no
contribution or one does not fit. -/
def extended (rows : List Row) (args : List Value) : Value :=
  match contributions? args rows.length with
  | some (first :: others) => ofRows (addColumns rows (first :: others))
  | _ => ofRows []

/-! ## §3 Plugins -/

/-- The rows of the map of lists in the first argument, extended by the others if there are any. -/
def listOfMap (args : List Value) : Value :=
  match args with
  | .map fields :: rest =>
    match mapOfLists? fields with
    | none => ofRows []
    | some columns =>
      let rows := rowsOf columns
      if rest.isEmpty || rows.isEmpty then ofRows rows else extended rows rest
  | _ => ofRows []

/-- The rows in the first argument extended by the columns of the others. -/
def updateListOfMap (args : List Value) : Value :=
  match args with
  | .sequence items :: rest =>
    if rest.isEmpty || items.isEmpty then ofRows []
    else match toRows? items with
      | some rows => extended rows rest
      | none => ofRows []
  | _ => ofRows []

/-- The plugins of this module. -/
def all : List Definition :=
  [⟨"listOfMap", fun _ args => .ok (listOfMap args)⟩,
   ⟨"updateListOfMap", fun _ args => .ok (updateListOfMap args)⟩]

end TaskFlow.Plugin.Rows
