/-
TaskFlow.CommandLine.Journal — what the program tells while it works.

  §1 Records   — records by the part of the program that tells them.
  §2 Preparing — the settings, and the flows of a folder.
  §3 Running   — the calls of a run and its end.
  §4 Text      — `Journal.text` is what a log shows of some records.
-/
import TaskFlow.Document.Folder
import TaskFlow.Local.Rehearsal
import TaskFlow.Settings.Filter
import TaskFlow.Settings.Logging

namespace TaskFlow.CommandLine.Journal

open TaskFlow TaskFlow.Text

/-! ## §1 Records -/

/-- A record of the program itself. -/
def ofProgram (level : LogLevel) (message : String) : LogRecord :=
  { level, target := "eventflow", message }

/-- A record of the engine. -/
def ofEngine (level : LogLevel) (message : String) : LogRecord :=
  { level, target := "eventflow_core", message }

/-- A record of the reader of documents. -/
def ofReader (level : LogLevel) (message : String) : LogRecord :=
  { level, target := "eventflow_dsl", message }

/-- A record of the log itself. -/
def ofLog (level : LogLevel) (message : String) : LogRecord :=
  { level, target := "eventflow_monitoring", message }

/-! ## §2 Preparing -/

/-- The log begins, and the limits of the engine are read. -/
def settings (environment : String → Option String) : List LogRecord :=
  let misread := EngineSettings.variableNames.filter fun name =>
    (environment name).any fun raw => (EngineSettings.millis? raw).isNone
  ofLog .info "Logging initialized"
    :: misread.map (fun name => ofEngine .warn s!"Invalid value of {name}")
    ++ [ofEngine .info "Engine configuration loaded"]

/-- Files are read one after the other into a catalog. -/
def files (read : FlowReader) (c : Catalog) : List SourceFile → List LogRecord
  | [] => [ofReader .info "Flow directory scanned"]
  | file :: rest =>
    let next := c.addFile read file
    let told :=
      if c.ids.length < next.ids.length then
        [ofEngine .info "Flow loaded", ofReader .debug s!"Flow file {file.name} loaded"]
      else [ofReader .error s!"Unable to load a flow from {file.name}"]
    told ++ files read next rest

/-- The flows of a folder are loaded. -/
def folder (read : FlowReader) (found : List SourceFile) : List LogRecord :=
  files read Catalog.empty (SourceFile.documents found)

/-! ## §3 Running -/

/-- The span of a run. -/
def runSpan (flowId : String) : LogSpan :=
  { name := "flow_run", target := "eventflow_core", fields := [("flow_id", flowId)] }

/-- A route is called. A monitor that does not answer does no harm. -/
def delivery (world : Local.World) (d : Delivery Local.World) : LogRecord :=
  match d.purpose with
  | .task => ofEngine .debug s!"Dispatching to {d.route}"
  | .monitor _ =>
    if Dictionary.contains world.table d.route then ofEngine .debug s!"Monitor {d.route} notified"
    else ofEngine .warn s!"Monitor call of {d.route} failed"

/-- A run ends. -/
def ending : Ending → LogRecord
  | .completed _ => ofEngine .info "Flow completed"
  | .failed failure => ofEngine .error failure.message
  | .unfinished => ofEngine .warn "Flow abandoned"

/-- A flow is run. -/
def run (flowId : String) (report : Report Local.World) : List LogRecord :=
  let inside := ofEngine .info "Flow started"
    :: report.deliveries.map (delivery report.world) ++ [ending report.ending]
  [ofEngine .info "Plugins registered", ofEngine .debug "Function registered",
   { ofProgram .info "Flow submitted" with fields := [("flow_id", flowId)] }]
    ++ inside.map fun r =>
      { r with fields := [("flow_id", flowId)], span := some (runSpan flowId) }

/-! ## §4 Text -/

/-- What the log shows of some records. -/
def text (filter : LogFilter) (json : Bool) (records : List LogRecord) : String :=
  joined "" ((records.filter filter.shows).map fun r => if json then r.jsonLine else r.line)

end TaskFlow.CommandLine.Journal
