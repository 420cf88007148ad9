/-
TaskFlow.Mapping.Convert — type suffixes.

  §1 Whole numbers — `wholeNumber?`.
  §2 Conversions   — `convert`; a value that cannot be converted is kept as it is.
-/
import TaskFlow.Binary.Read
import TaskFlow.Mapping.Basic
import TaskFlow.Plugin.Supply
import TaskFlow.Plugin.Value
import TaskFlow.Template

namespace TaskFlow.Mapping

open TaskFlow TaskFlow.Text TaskFlow.Binary

/-! ## §1 Whole numbers -/

/-- The whole number that a float is cut to. -/
def cut (x : Double) : Int64 :=
  Int64.ofInt x.saturate

/-- The whole number that a value stands for. Numbers past the 64-bit range, floats and texts that
spell floats are cut to their whole part. -/
def wholeNumber? : Json → Option Int64
  | .num n => some (n.toInt64?.getD (cut n.toDouble))
  | .bool b => some (if b then 1 else 0)
  | v =>
    let text := trim (Template.textOf v).toList
    match Plugin.Value.long? text with
    | some n => some n
    | none => (Double.read? text).map cut

/-! ## §2 Conversions -/

/-- The number of entries of a container or characters of a text; nothing has none. -/
def sizeOf : Option Json → Nat
  | none | some .null => 0
  | some (.str s) => s.length
  | some (.arr items) => items.length
  | some (.obj fields) => fields.length
  | some v => v.text.length

/-- The characters from `start` up to `stop` or the end; nothing unless there are some. -/
def substring? (text : String) (start : Nat) (stop : Option Nat) : Option String :=
  let chars := text.toList
  let stop := stop.getD chars.length
  if stop ≤ start ∨ chars.length < stop then none
  else some (String.ofList ((chars.take stop).drop start))

/-- The converted value, if the conversion applies to it. -/
def converted? (supply : Supply) (v : Json) : Conversion → Option Json
  | .text => some (.str (Template.textOf v))
  | .int | .long => (wholeNumber? v).map Json.ofInt64
  | .float | .double =>
    ((Double.read? (trim (Template.textOf v).toList)).bind Double.finite?).map
      fun x => .num (.real x)
  | .boolean => some (.bool (Plugin.Value.saysTrue (Template.textOf v)))
  | .negate => some (.bool !Plugin.Value.saysTrue (Template.textOf v))
  | .length => some (Json.ofNat (sizeOf (some v)))
  | .uuid => some (.str supply.uuid)
  | .substring start stop => (substring? (Template.textOf v) start stop).map .str

/-- An element with a conversion applied. A fresh identifier and a length exist for a missing
element too. -/
def convert (supply : Supply) (conversion : Conversion) : Option Json → Option Json
  | some v => some ((converted? supply v conversion).getD v)
  | none =>
    match conversion with
    | .uuid => some (.str supply.uuid)
    | .length => some (Json.ofNat 0)
    | _ => none

end TaskFlow.Mapping
