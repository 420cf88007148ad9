/-
TaskFlow.Plugin.Builtin.Wording — text functions: concat, length, substring.
-/
import TaskFlow.Plugin.Arity

namespace TaskFlow.Plugin.Wording

open TaskFlow TaskFlow.Plugin TaskFlow.Text

/-- The text forms of all arguments one after the other. -/
def concat : Definition :=
  ⟨"concat", fun _ args => do
    (Arity.atLeast 2).check "concat" args
    .ok (.text (String.join (args.map Value.toText)))⟩

/-- The entries of a container or the characters of a text form; null has none. -/
def sizeOf : Value → Nat
  | .null => 0
  | .sequence items => items.length
  | .map fields => fields.length
  | v => v.toText.length

/-- The size of a value. -/
def length : Definition :=
  ⟨"length", fun _ args => do
    (Arity.exactly 1).check "length" args
    .ok (.integer (Int64.ofNat (sizeOf (args.headD .null))))⟩

/-- A position in a text. -/
def position (v : Value) : Except PluginError Nat := do
  let n ← v.promote
  if n.toInt < 0 then failed "substring" s!"negative index {intText n.toInt}"
  else .ok n.toInt.toNat

/-- The characters of a text from `start` up to `stop`, which must lie inside it in this order. -/
def slice (chars : List Char) (start stop : Nat) : Except PluginError Value :=
  if start ≤ stop ∧ stop ≤ chars.length then
    .ok (.text (String.ofList ((chars.take stop).drop start)))
  else
    failed "substring" s!"indexes are out of bounds: [{natText start}, {natText stop}]"

/-- A part of a text by character positions, up to its end unless a third argument says where to
stop. -/
def substring : Definition :=
  ⟨"substring", fun _ args => do
    (Arity.either 2 3).check "substring" args
    match args with
    | v :: first :: rest =>
      let chars := v.toText.toList
      let start ← position first
      match rest with
      | last :: _ =>
        let stop ← position last
        slice chars start stop
      | [] => slice chars start chars.length
    | _ => .ok .null⟩

/-- The plugins of this module. -/
def all : List Definition := [concat, length, substring]

end TaskFlow.Plugin.Wording
