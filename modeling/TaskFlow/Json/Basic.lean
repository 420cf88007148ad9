/-
TaskFlow.Json.Basic — the data model: values as a flow's payload, state and messages hold them.

  §1 Values   — `Json`; the fields of an object are a dictionary.
  §2 Equality — `Json.decEq`, decided by recursion on both values.
  §3 Views    — fields, items and texts of a value, if it has them.
-/
import TaskFlow.Dictionary
import TaskFlow.Json.Number

namespace TaskFlow

/-! ## §1 Values -/

/-- A value of the data model. -/
inductive Json where
  | null
  | bool (b : Bool)
  | num (n : Number)
  | str (s : String)
  | arr (items : List Json)
  | obj (fields : List (String × Json))

instance : Inhabited Json := ⟨.null⟩

namespace Json

/-! ## §2 Equality -/

mutual

/-- Equality of values is decidable. -/
def decEq : (a b : Json) → Decidable (a = b)
  | .null, .null => isTrue rfl
  | .bool a, .bool b =>
    if h : a = b then isTrue (h ▸ rfl) else isFalse fun e => h (by cases e; rfl)
  | .num a, .num b =>
    if h : a = b then isTrue (h ▸ rfl) else isFalse fun e => h (by cases e; rfl)
  | .str a, .str b =>
    if h : a = b then isTrue (h ▸ rfl) else isFalse fun e => h (by cases e; rfl)
  | .arr a, .arr b =>
    match decEqItems a b with
    | isTrue h => isTrue (h ▸ rfl)
    | isFalse h => isFalse fun e => h (by cases e; rfl)
  | .obj a, .obj b =>
    match decEqFields a b with
    | isTrue h => isTrue (h ▸ rfl)
    | isFalse h => isFalse fun e => h (by cases e; rfl)
  | .null, .bool _ | .null, .num _ | .null, .str _ | .null, .arr _ | .null, .obj _
  | .bool _, .null | .bool _, .num _ | .bool _, .str _ | .bool _, .arr _ | .bool _, .obj _
  | .num _, .null | .num _, .bool _ | .num _, .str _ | .num _, .arr _ | .num _, .obj _
  | .str _, .null | .str _, .bool _ | .str _, .num _ | .str _, .arr _ | .str _, .obj _
  | .arr _, .null | .arr _, .bool _ | .arr _, .num _ | .arr _, .str _ | .arr _, .obj _
  | .obj _, .null | .obj _, .bool _ | .obj _, .num _ | .obj _, .str _ | .obj _, .arr _ =>
    isFalse fun e => by cases e

/-- Equality of lists of values is decidable. -/
def decEqItems : (a b : List Json) → Decidable (a = b)
  | [], [] => isTrue rfl
  | x :: xs, y :: ys =>
    match decEq x y, decEqItems xs ys with
    | isTrue h, isTrue g => isTrue (h ▸ g ▸ rfl)
    | isFalse h, _ => isFalse fun e => h (by cases e; rfl)
    | _, isFalse h => isFalse fun e => h (by cases e; rfl)
  | [], _ :: _ | _ :: _, [] => isFalse fun e => by cases e

/-- Equality of lists of fields is decidable. -/
def decEqFields : (a b : List (String × Json)) → Decidable (a = b)
  | [], [] => isTrue rfl
  | (k, x) :: xs, (l, y) :: ys =>
    if hk : k = l then
      match decEq x y, decEqFields xs ys with
      | isTrue h, isTrue g => isTrue (h ▸ g ▸ hk ▸ rfl)
      | isFalse h, _ => isFalse fun e => h (by cases e; rfl)
      | _, isFalse h => isFalse fun e => h (by cases e; rfl)
    else isFalse fun e => hk (by cases e; rfl)
  | [], _ :: _ | _ :: _, [] => isFalse fun e => by cases e

end

instance : DecidableEq Json := decEq

/-! ## §3 Views -/

/-- The value is null. -/
def isNull : Json → Bool
  | .null => true
  | _ => false

/-- The value is an object. -/
def isObject : Json → Bool
  | .obj _ => true
  | _ => false

/-- The field of an object. -/
def field? (key : String) : Json → Option Json
  | .obj fields => Dictionary.get? key fields
  | _ => none

/-- The text of a string. -/
def text? : Json → Option String
  | .str s => some s
  | _ => none

/-- A natural number below `2 ^ 64`. -/
def ofNat (n : Nat) : Json :=
  match Whole.ofInt? n with
  | some w => .num (.whole w)
  | none => .null

/-- A signed 64-bit integer. -/
def ofInt64 (n : Int64) : Json :=
  .num (.whole (Whole.ofInt64 n))

/-- A string, or null for nothing. -/
def ofText? : Option String → Json
  | some s => .str s
  | none => .null

/-- An object from a list of fields in any order. -/
def ofFields (fields : List (String × Json)) : Json :=
  .obj (Dictionary.ofList fields)

end Json

end TaskFlow
