/-
TaskFlow.Plugin.Registry — plugin functions and their registry.

  §1 Plugins    — `Plugin` is a name and a calculation; `Ambient` is what a calculation may draw on
                  besides its arguments.
  §2 Registries — `Registry` finds plugins by name; a name is registered once.
-/
import TaskFlow.Calendar.Date
import TaskFlow.Plugin.Supply
import TaskFlow.Plugin.Value

namespace TaskFlow

open TaskFlow.Text

namespace Plugin

/-! ## §1 Plugins -/

/-- What a calculation may draw on besides its arguments: the time and fresh identifiers. -/
structure Ambient where
  now : Calendar.Instant
  supply : Supply
deriving Inhabited

/-- The same time with a branch of the identifiers. -/
def Ambient.branch (a : Ambient) (n : Nat) : Ambient :=
  { a with supply := a.supply.branch n }

/-- A named calculation. -/
structure Definition where
  name : String
  calculate : Ambient → List Value → Except PluginError Value

/-! ## §2 Registries -/

/-- Plugins by name. -/
structure Registry where
  plugins : Dictionary Definition

namespace Registry

/-- The registry without plugins. -/
def empty : Registry := ⟨[]⟩

instance : Inhabited Registry := ⟨empty⟩

/-- The plugin with a name. -/
def find? (r : Registry) (name : String) : Option Definition :=
  Dictionary.get? name r.plugins

/-- The name is registered. -/
def contains (r : Registry) (name : String) : Bool :=
  (r.find? name).isSome

/-- The plugin with a name, or the error that there is none. -/
def lookup (r : Registry) (name : String) : Except PluginError Definition :=
  match r.find? name with
  | some plugin => .ok plugin
  | none => .error (.notFound name)

/-- The registry with one more plugin, whose name must be new. -/
def register (r : Registry) (plugin : Definition) : Except PluginError Registry :=
  if r.contains plugin.name then .error (.duplicateName plugin.name)
  else .ok ⟨Dictionary.insert plugin.name plugin r.plugins⟩

/-- The registry with the plugins of every provider in order. -/
def discover (providers : List (List Definition)) : Except PluginError Registry :=
  providers.flatten.foldlM register empty

/-- The result of a plugin call. -/
def invoke (r : Registry) (ambient : Ambient) (name : String) (args : List Value) :
    Except PluginError Value := do
  let plugin ← r.lookup name
  plugin.calculate ambient args

/-- The names in order. -/
def names (r : Registry) : List String :=
  Dictionary.keys r.plugins

/-- The number of plugins. -/
def size (r : Registry) : Nat :=
  r.plugins.length

/-- The registry as messages show it. -/
def describe (r : Registry) : String :=
  let listed := joined ", " (r.names.map literal)
  s!"PluginRegistry \x7b plugins: [{listed}] \x7d"

end Registry

end Plugin

end TaskFlow
