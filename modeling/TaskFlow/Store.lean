/-
TaskFlow.Store — the working state of a flow instance.

The state is one value of the data model, read and written by the text of a path.

  §1 The store  — `Store`, empty at first.
  §2 Operations — `get?`, `set`, `remove`, `merge`. A write gives the store it leaves behind and the
                  fault that stopped it, if any.
-/
import TaskFlow.Error

namespace TaskFlow

open TaskFlow.Text

/-! ## §1 The store -/

/-- The working state of a flow instance. -/
structure Store where
  root : Json
deriving DecidableEq

namespace Store

/-- The store without any element. -/
def empty : Store := ⟨.obj []⟩

instance : Inhabited Store := ⟨empty⟩

/-! ## §2 Operations -/

/-- The element at a path; a text that spells no path has none. -/
def get? (s : Store) (path : String) : Option Json :=
  (Path.read? path).bind s.root.at?

/-- There is an element at the path. -/
def contains (s : Store) (path : String) : Bool :=
  (s.get? path).isSome

/-- The store after an attempt to write `value` at a path, and the fault that stopped it. -/
def set (s : Store) (path : String) (value : Json) : Store × Option StateFault :=
  match Path.read? path with
  | none => (s, some (.invalidPath path))
  | some segments =>
    let written := Json.write value segments s.root
    (⟨written.value⟩, written.obstacle.map (.obstacle path))

/-- The element at a path and the store without it; nothing when there is none. What stands behind
the last dot is removed from the element that the text in front of it leads to. -/
def remove? (s : Store) (path : String) : Option (Json × Store) := do
  let (removed, left) ← match cutLast ['.'] path.toList with
    | some (front, last) => do
      let leaf ← Path.read? (String.ofList last)
      let parent ← Path.read? (String.ofList front)
      Json.alterAt? (Json.removeAt? leaf) parent s.root
    | none => do
      let leaf ← Path.read? path
      Json.removeAt? leaf s.root
  some (removed, ⟨left⟩)

/-- The store without the element at a path. -/
def erase (s : Store) (path : String) : Store :=
  match s.remove? path with
  | some (_, left) => left
  | none => s

/-- The store with `subtree` laid over the element at a path: where both are objects, the element
changes where it stands; anything else is written there. -/
def merge (s : Store) (subtree : Json) (path : String) : Store × Option StateFault :=
  match s.get? path, subtree with
  | some (.obj _), .obj newer =>
    let unite := fun existing => some ((), Json.merge existing (.obj newer))
    match (Path.read? path).bind (Json.alterAt? unite · s.root) with
    | some (_, united) => (⟨united⟩, none)
    | none => (s, none)
  | _, _ => s.set path subtree

/-- The store that results from writing each field of an object at the path its key spells, in the
order of the keys. -/
def ofPaths (fields : List (String × Json)) : Except StateFault Store :=
  fields.foldlM (fun s (path, value) =>
    match s.set path value with
    | (next, none) => .ok next
    | (_, some fault) => .error fault) empty

end Store

end TaskFlow
