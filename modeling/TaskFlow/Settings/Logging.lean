/-
TaskFlow.Settings.Logging — what the log shows.

  §1 Settings    — `LoggingSettings` and its defaults.
  §2 Environment — `LoggingSettings.load`.
  §3 Records     — reading settings from a value.
-/
import TaskFlow.Record
import TaskFlow.Text.Blank

namespace TaskFlow

open TaskFlow.Text

/-! ## §1 Settings -/

/-- What the log shows. -/
structure LoggingSettings where
  serviceName : String := "eventflow"
  filter : String := "info"
  /-- Lines of JSON instead of readable ones. -/
  json : Bool := false
deriving DecidableEq, Repr, Inhabited

namespace LoggingSettings

/-! ## §2 Environment -/

/-- The text holds more than blanks. -/
def isFilled (text : String) : Bool :=
  !(trim text.toList).isEmpty

/-- The truth value of a switch, blanks and case ignored. -/
def switch? (raw : String) : Option Bool :=
  let word := String.ofList ((trim raw.toList).map Char.toLower)
  if word ∈ ["1", "true", "yes"] then some true
  else if word ∈ ["0", "false", "no"] then some false
  else none

/-- The settings that an environment asks for; what it does not say well keeps its default. -/
def load (environment : String → Option String) : LoggingSettings :=
  let read := fun name (other : String) => ((environment name).filter isFilled).getD other
  { serviceName := read "EVENTFLOW_SERVICE_NAME" "eventflow"
    filter := read "EVENTFLOW_LOG_FILTER" "info"
    json := ((environment "EVENTFLOW_LOG_JSON").bind switch?).getD false }

/-! ## §3 Records -/

/-- The names of the fields. -/
def fieldNames : List String := ["service_name", "log_filter", "enable_json_logging"]

/-- Settings from a record whose fields all have defaults. -/
def ofJson? (v : Json) : Option LoggingSettings := do
  let fields ← Record.fields? fieldNames v
  let serviceName ← Record.orElse fields "service_name" Record.text "eventflow"
  let filter ← Record.orElse fields "log_filter" Record.text "info"
  let json ← Record.orElse fields "enable_json_logging" Record.truth false
  some { serviceName, filter, json }

end LoggingSettings

end TaskFlow
