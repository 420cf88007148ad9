/-
TaskFlow.Settings.Engine — time limits of the engine.

  §1 Settings    — `EngineSettings` and its defaults, all in milliseconds.
  §2 Environment — `EngineSettings.load` reads them from environment variables.
  §3 Records     — reading and writing settings as values.
-/
import TaskFlow.Record
import TaskFlow.Text.Blank

namespace TaskFlow

open TaskFlow.Text

/-! ## §1 Settings -/

/-- The time limits of the engine in milliseconds. -/
structure EngineSettings where
  /-- For a dispatch of a task that declares none. -/
  dispatchTimeout : Nat := 30000
  /-- For an instance of a flow that declares none. -/
  flowTtl : Nat := 60000
  /-- For every call of a monitor. -/
  monitorTimeout : Nat := 5000
deriving DecidableEq, Repr, Inhabited

namespace EngineSettings

/-! ## §2 Environment -/

/-- A positive number of milliseconds, blanks around it ignored. -/
def millis? (raw : String) : Option Nat :=
  (unsigned? wordBound (trim raw.toList)).filter (0 < ·)

/-- The variable with the limit of a dispatch. -/
def dispatchVariable : String := "EVENTFLOW_DISPATCH_TIMEOUT_MS"

/-- The variable with the lifetime of an instance. -/
def ttlVariable : String := "EVENTFLOW_FLOW_TTL_MS"

/-- The variable with the limit of a monitor's call. -/
def monitorVariable : String := "EVENTFLOW_MONITOR_TIMEOUT_MS"

/-- The variables that the settings come from. -/
def variableNames : List String := [dispatchVariable, ttlVariable, monitorVariable]

/-- The settings that an environment asks for; what it does not say well keeps its default. -/
def load (environment : String → Option String) : EngineSettings :=
  let read := fun name (other : Nat) => ((environment name).bind millis?).getD other
  { dispatchTimeout := read dispatchVariable 30000
    flowTtl := read ttlVariable 60000
    monitorTimeout := read monitorVariable 5000 }

/-! ## §3 Records -/

/-- The names of the fields. -/
def fieldNames : List String :=
  ["default_dispatch_timeout_ms", "default_flow_ttl_ms", "monitor_timeout_ms"]

/-- Settings from a record whose fields all have defaults. -/
def ofJson? (v : Json) : Option EngineSettings := do
  let fields ← Record.fields? fieldNames v
  let millis := Record.natural wordBound
  let dispatchTimeout ← Record.orElse fields "default_dispatch_timeout_ms" millis 30000
  let flowTtl ← Record.orElse fields "default_flow_ttl_ms" millis 60000
  let monitorTimeout ← Record.orElse fields "monitor_timeout_ms" millis 5000
  some { dispatchTimeout, flowTtl, monitorTimeout }

/-- Settings as a record. -/
def toJson (s : EngineSettings) : Json :=
  .ofFields
    [("default_dispatch_timeout_ms", .ofNat s.dispatchTimeout),
     ("default_flow_ttl_ms", .ofNat s.flowTtl),
     ("monitor_timeout_ms", .ofNat s.monitorTimeout)]

end EngineSettings

end TaskFlow
