/-
TaskFlow.Record — reading records from values of the data model.

A record is an object with its fields by name, or a list with its fields in order. Unknown fields of
an object are ignored; a list may end early where the missing fields have defaults.

  §1 Fields  — `Fields` finds a field by name; `required` and `orElse` read it.
  §2 Scalars — texts, truth values, natural numbers of some bits, optional values, lists.
-/
import TaskFlow.Json.Basic

namespace TaskFlow.Record

open TaskFlow

/-! ## §1 Fields -/

/-- The fields of a record by name. -/
abbrev Fields := String → Option Json

/-- The fields of a value that may stand for a record with these field names. -/
def fields? (names : List String) : Json → Option Fields
  | .obj fields => some fun name => Dictionary.get? name fields
  | .arr items =>
    if items.length ≤ names.length then
      some fun name => ((names.zip items).find? (·.1 == name)).map (·.2)
    else none
  | _ => none

/-- A field that must be there. -/
def required {α : Type} (fields : Fields) (name : String) (read : Json → Option α) : Option α :=
  (fields name).bind read

/-- A field with a default. -/
def orElse {α : Type} (fields : Fields) (name : String) (read : Json → Option α) (other : α) :
    Option α :=
  match fields name with
  | none => some other
  | some v => read v

/-! ## §2 Scalars -/

/-- A text. -/
def text : Json → Option String := Json.text?

/-- Any value. -/
def any : Json → Option Json := some

/-- A truth value. -/
def truth : Json → Option Bool
  | .bool b => some b
  | _ => none

/-- A natural number below a bound. -/
def natural (bound : Nat) : Json → Option Nat
  | .num n => n.toNat?.filter (· < bound)
  | _ => none

/-- A value or null. -/
def optional {α : Type} (read : Json → Option α) : Json → Option (Option α)
  | .null => some none
  | v => (read v).map some

/-- A list. -/
def list {α : Type} (read : Json → Option α) : Json → Option (List α)
  | .arr items => items.mapM read
  | _ => none

/-- An object with values of one kind. -/
def dictionary {α : Type} (read : Json → Option α) : Json → Option (Dictionary α)
  | .obj fields => fields.mapM fun (name, v) => (read v).map (name, ·)
  | _ => none

end TaskFlow.Record
