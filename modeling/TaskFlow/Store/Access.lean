/-
TaskFlow.Store.Access — reading and changing a value along a path.

Each operation recurses on the path and takes one step into the value with each segment.

  §1 Reading  — `Json.at?`.
  §2 Writing  — `Json.write` creates missing containers on its way and pads lists with null, within
                `maxPadding`. A write that fails keeps the containers it made before it failed.
  §3 Removing — `Json.removeAt?` takes a field out of its object and leaves null in a list;
                `Json.alterAt?` changes the element that a path leads to.
  §4 Merging  — `Json.merge` unites objects field by field, the newer value winning.
-/
import TaskFlow.Json.Basic
import TaskFlow.Store.Path

namespace TaskFlow

/-! ## §1 Reading -/

namespace Json

/-- The element at a path. -/
def at? : Json → Path → Option Json
  | v, [] => some v
  | .obj fields, .key name :: rest => (Dictionary.get? name fields).bind (at? · rest)
  | .arr items, .index position :: rest => items[position]?.bind (at? · rest)
  | _, _ => none

/-! ## §2 Writing -/

/-- The most nulls that one write appends to a list before its own slot. -/
def maxPadding : Nat := 1024

/-- Why a value cannot be written at a path. -/
inductive Obstacle where
  /-- The element at this step is neither null nor the container that the segment needs. -/
  | collision (segment : Segment)
  /-- The index lies more than `maxPadding` past the end of a list of this length. -/
  | tooFar (position length : Nat)
deriving DecidableEq, Repr

/-- A value after an attempt to change it, and what was in the way, if anything. -/
structure Written where
  value : Json
  obstacle : Option Obstacle := none

/-- The list with nulls appended up to and including a position. -/
def pad (items : List Json) (position : Nat) : List Json :=
  items ++ List.replicate (position + 1 - items.length) .null

/-- The fields that a null or an object stands for when a key is written into it. -/
def asFields? : Json → Option (List (String × Json))
  | .null => some []
  | .obj fields => some fields
  | _ => none

/-- The items that a null or a list stands for when an index is written into it. -/
def asItems? : Json → Option (List Json)
  | .null => some []
  | .arr items => some items
  | _ => none

/-- `current` with `value` written at the path. -/
def write (value : Json) : Path → Json → Written
  | [], _ => { value }
  | .key name :: rest, current =>
    match asFields? current with
    | none => { value := current, obstacle := some (.collision (.key name)) }
    | some fields =>
      let child := write value rest ((Dictionary.get? name fields).getD .null)
      { value := .obj (Dictionary.insert name child.value fields), obstacle := child.obstacle }
  | .index position :: rest, current =>
    match asItems? current with
    | none => { value := current, obstacle := some (.collision (.index position)) }
    | some items =>
      if items.length + maxPadding < position then
        { value := .arr items, obstacle := some (.tooFar position items.length) }
      else
        let child := write value rest (items[position]?.getD .null)
        { value := .arr ((pad items position).set position child.value)
          obstacle := child.obstacle }

/-! ## §3 Removing -/

/-- The element at a path and the value without it; nothing when the path leads nowhere. -/
def removeAt? : Path → Json → Option (Json × Json)
  | [], _ => none
  | [.key name], .obj fields =>
    (Dictionary.get? name fields).map fun v => (v, .obj (Dictionary.erase name fields))
  | [.index position], .arr items =>
    items[position]?.map fun v => (v, .arr (items.set position .null))
  | .key name :: next :: rest, .obj fields => do
    let child ← Dictionary.get? name fields
    let (removed, left) ← removeAt? (next :: rest) child
    some (removed, .obj (Dictionary.insert name left fields))
  | .index position :: next :: rest, .arr items => do
    let child ← items[position]?
    let (removed, left) ← removeAt? (next :: rest) child
    some (removed, .arr (items.set position left))
  | _, _ => none

/-- What `change` gives for the element at a path, and the value with that element changed; nothing
when the path leads nowhere or `change` gives nothing. -/
def alterAt? {α : Type} (change : Json → Option (α × Json)) : Path → Json → Option (α × Json)
  | [], v => change v
  | .key name :: rest, .obj fields => do
    let child ← Dictionary.get? name fields
    let (result, left) ← alterAt? change rest child
    some (result, .obj (Dictionary.insert name left fields))
  | .index position :: rest, .arr items => do
    let child ← items[position]?
    let (result, left) ← alterAt? change rest child
    some (result, .arr (items.set position left))
  | _, _ => none

/-! ## §4 Merging -/

mutual

/-- `newer` laid over `older`: objects unite, anything else is replaced. -/
def merge (older : Json) : Json → Json
  | .obj newer =>
    match older with
    | .obj fields => .obj (mergeFields fields newer)
    | _ => .obj newer
  | .null => .null
  | .bool b => .bool b
  | .num n => .num n
  | .str s => .str s
  | .arr items => .arr items

/-- The fields of an object laid over those of another. -/
def mergeFields (older : List (String × Json)) : List (String × Json) → List (String × Json)
  | [] => older
  | (name, v) :: rest =>
    let united := match Dictionary.get? name older with
      | some existing => merge existing v
      | none => v
    mergeFields (Dictionary.insert name united older) rest

end

end Json

end TaskFlow
