/-
TaskFlow.Plugin.Value — arguments and results of plugin functions.

  §1 Values     — `Value`; whole numbers have 64 bits, the fields of a map are a dictionary.
  §2 Conversion — `Value.ofJson` and `Value.toJson`.
  §3 Readings   — type name, truth, text, whole number.
  §4 Equality   — `Value.equals`, numeric on floats.
-/
import TaskFlow.Error
import TaskFlow.Json.Print

namespace TaskFlow.Plugin

open TaskFlow TaskFlow.Text TaskFlow.Binary

/-! ## §1 Values -/

/-- An argument or result of a plugin. -/
inductive Value where
  | null
  | boolean (b : Bool)
  | integer (n : Int64)
  | float (x : Double)
  | text (s : String)
  | sequence (items : List Value)
  | map (fields : List (String × Value))

instance : Inhabited Value := ⟨.null⟩

namespace Value

/-! ## §2 Conversion -/

mutual

/-- A value of the data model as an argument. A whole number past the 64-bit range becomes a
float. -/
def ofJson : Json → Value
  | .null => .null
  | .bool b => .boolean b
  | .num n =>
    match n.toInt64? with
    | some i => .integer i
    | none => .float n.toDouble
  | .str s => .text s
  | .arr items => .sequence (ofItems items)
  | .obj fields => .map (ofFields fields)

/-- `ofJson` on every item. -/
def ofItems : List Json → List Value
  | [] => []
  | x :: rest => ofJson x :: ofItems rest

/-- `ofJson` on every field. -/
def ofFields : List (String × Json) → List (String × Value)
  | [] => []
  | (k, x) :: rest => (k, ofJson x) :: ofFields rest

end

mutual

/-- A result as a value of the data model. A float that is not finite becomes null. -/
def toJson : Value → Json
  | .null => .null
  | .boolean b => .bool b
  | .integer n => Json.ofInt64 n
  | .float x =>
    match x with
    | .finite y => .num (.real y)
    | _ => .null
  | .text s => .str s
  | .sequence items => .arr (toItems items)
  | .map fields => .obj (toFields fields)

/-- `toJson` on every item. -/
def toItems : List Value → List Json
  | [] => []
  | x :: rest => toJson x :: toItems rest

/-- `toJson` on every field. -/
def toFields : List (String × Value) → List (String × Json)
  | [] => []
  | (k, x) :: rest => (k, toJson x) :: toFields rest

end

/-! ## §3 Readings -/

/-- The name of the value's type in messages. -/
def typeName : Value → String
  | .null => "null"
  | .boolean _ => "boolean"
  | .integer _ => "integer"
  | .float _ => "float"
  | .text _ => "text"
  | .sequence _ => "sequence"
  | .map _ => "map"

/-- The value is null. -/
def isNull : Value → Bool
  | .null => true
  | _ => false

/-- The text says `true`, in any case and with blanks around it. -/
def saysTrue (s : String) : Bool :=
  (trim s.toList).map Char.toLower == "true".toList

/-- `true`, a text that says so, and whole numbers other than zero are true; all else is false. -/
def isTruthy : Value → Bool
  | .boolean b => b
  | .text s => saysTrue s
  | .integer n => n != 0
  | _ => false

/-- The text form: scalars plainly, null as nothing, containers as compact JSON. -/
def toText : Value → String
  | .null => ""
  | .boolean b => if b then "true" else "false"
  | .integer n => intText n.toInt
  | .float x => String.ofList (x.print plainLayout)
  | .text s => s
  | v => v.toJson.text

/-- A 64-bit integer from its numeral. -/
def long? (cs : List Char) : Option Int64 :=
  (signed? 0x8000000000000000 cs).map Int64.ofInt

/-- The whole number that a value stands for: an integer itself, or a text that spells one. -/
def promote : Value → Except PluginError Int64
  | .integer n => .ok n
  | .text s =>
    match long? (trim s.toList) with
    | some n => .ok n
    | none => .error (.promotion s!"text '{s}'")
  | v => .error (.promotion v.typeName)

/-! ## §4 Equality -/

mutual

/-- Equality of values: of the same type and equal in all parts, floats by numeric equality. -/
def equals : Value → Value → Bool
  | .null, .null => true
  | .boolean a, .boolean b => a == b
  | .integer a, .integer b => a == b
  | .float a, .float b => a.equals b
  | .text a, .text b => a == b
  | .sequence a, .sequence b => equalItems a b
  | .map a, .map b => equalFields a b
  | _, _ => false

/-- `equals` item by item. -/
def equalItems : List Value → List Value → Bool
  | [], [] => true
  | x :: xs, y :: ys => equals x y && equalItems xs ys
  | _, _ => false

/-- `equals` field by field. -/
def equalFields : List (String × Value) → List (String × Value) → Bool
  | [], [] => true
  | (k, x) :: xs, (l, y) :: ys => (k == l) && equals x y && equalFields xs ys
  | _, _ => false

end

end Value

end TaskFlow.Plugin
