/-
TaskFlow.Plugin.Arity — how many arguments a plugin takes.

  §1 Arities — `Arity`, the counts it admits and its wording.
  §2 Helpers — the errors that calculations raise, and `mapEach`.
-/
import TaskFlow.Plugin.Registry

namespace TaskFlow.Plugin

open TaskFlow.Text

/-! ## §1 Arities -/

/-- How many arguments a plugin takes. -/
inductive Arity where
  | atLeast (n : Nat)
  | exactly (n : Nat)
  | atMost (n : Nat)
  | either (n m : Nat)
deriving DecidableEq, Repr

namespace Arity

/-- The count is admitted. -/
def admits : Arity → Nat → Bool
  | atLeast n, count => n ≤ count
  | exactly n, count => count == n
  | atMost n, count => count ≤ n
  | either n m, count => count == n || count == m

/-- The arity as messages name it. -/
def describe : Arity → String
  | atLeast n => s!"at least {natText n}"
  | exactly n => s!"exactly {natText n}"
  | atMost n => s!"at most {natText n}"
  | either n m => s!"{natText n} or {natText m}"

/-- The number of arguments is refused unless the arity admits it. -/
def check (a : Arity) (plugin : String) (args : List Value) : Except PluginError Unit :=
  if a.admits args.length then .ok () else .error (.arity plugin a.describe args.length)

end Arity

/-! ## §2 Helpers -/

/-- A failure that is described in words. -/
def failed {α : Type} (plugin message : String) : Except PluginError α :=
  .error (.evaluation plugin message)

/-- A result that no 64-bit integer holds. -/
def overflow {α : Type} (plugin : String) : Except PluginError α :=
  failed plugin "numeric overflow"

/-- `f` on every argument: one argument gives its value, several give a sequence. -/
def mapEach (plugin : String) (f : Value → Except PluginError Value) (args : List Value) :
    Except PluginError Value :=
  match args with
  | [] => .error (.arity plugin (Arity.atLeast 1).describe 0)
  | [single] => f single
  | several => (several.mapM f).map .sequence

/-- A plugin that maps each of its arguments. -/
def each (name : String) (f : Value → Except PluginError Value) : Definition :=
  ⟨name, fun _ => mapEach name f⟩

end TaskFlow.Plugin
