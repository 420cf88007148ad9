/-
TaskFlow.Plugin.Builtin — the plugins that every engine has.
-/
import TaskFlow.Plugin.Builtin.Arithmetic
import TaskFlow.Plugin.Builtin.Conversion
import TaskFlow.Plugin.Builtin.Logic
import TaskFlow.Plugin.Builtin.Moment
import TaskFlow.Plugin.Builtin.Rows
import TaskFlow.Plugin.Builtin.Wording

namespace TaskFlow.Plugin

/-- The built-in plugins. -/
def builtins : List Definition :=
  Arithmetic.all ++ Moment.all ++ Logic.all ++ Conversion.all ++ Wording.all ++ Rows.all

/-- The registry of the built-in plugins, whose names are all different. -/
def Registry.builtin : Registry :=
  ⟨Dictionary.ofList (builtins.map fun plugin => (plugin.name, plugin))⟩

end TaskFlow.Plugin
