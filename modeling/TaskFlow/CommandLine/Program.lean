/-
TaskFlow.CommandLine.Program — running one flow from the command line.

  §1 Surroundings — `Surroundings`: variables, folders, clock and random numbers, as the program
                    finds them.
  §2 Outcomes     — `Exit`, and the text of a finished run.
  §3 The program  — `run`.
-/
import TaskFlow.CommandLine.Arguments
import TaskFlow.CommandLine.Journal

namespace TaskFlow.CommandLine

open TaskFlow TaskFlow.Text

/-! ## §1 Surroundings -/

/-- What the program finds around it. -/
structure Surroundings where
  /-- The environment variables. -/
  environment : String → Option String
  /-- The regular files of a folder, if there is one that can be read. -/
  folder : String → Option (List SourceFile)
  now : Calendar.Instant
  supply : Supply

/-! ## §2 Outcomes -/

/-- How the program ends. -/
structure Exit where
  code : Nat
  output : String := ""
  errors : String := ""
deriving DecidableEq, Repr

/-- The program fails with a message. -/
def Exit.failure (message : String) : Exit :=
  { code := 1, errors := s!"Error: {message}\n" }

/-- The arguments make no sense. -/
def Exit.misuse (fault : UsageFault) : Exit :=
  { code := 2, errors := s!"error: {fault.message}\n\nFor more information, try '--help'.\n" }

/-- A time in nanoseconds as seconds and the rest. -/
def spanJson (nanos : Nat) : Json :=
  .obj [("secs", .ofNat (nanos / 1000000000)), ("nanos", .ofNat (nanos % 1000000000))]

/-- The outcome of a run as spread JSON, what identifies the run first. -/
def outcomeText (o : FlowOutcome) : String :=
  let fields :=
    [("instance_id", Json.str o.instanceId), ("flow_id", .str o.flowId),
     ("correlation_id", .str o.correlationId), ("output", o.output), ("state", o.state),
     ("executed", .arr (o.executed.map .str)), ("elapsed", spanJson o.elapsed)]
  String.ofList (Json.printSpread 0 (.obj fields) ++ ['\n'])

/-- The help text. -/
def helpText : String :=
  joined "\n"
    ["Run one flow instance and print its outcome as JSON", "",
     "Usage: eventflow [OPTIONS] <FLOW_ID>", "",
     "Arguments:", "  <FLOW_ID>  Flow to run", "",
     "Options:",
     "      --flows <FLOWS>                    Directory holding `.yml` / `.yaml` flow documents",
     "      --payload <PAYLOAD>                Initial payload, as JSON",
     "      --correlation-id <CORRELATION_ID>  Correlation id; generated when absent",
     "  -h, --help                             Print help",
     "  -V, --version                          Print version", ""]

/-- The version text. -/
def versionText : String := "eventflow 0.1.0\n"

/-! ## §3 The program -/

/-- The most tasks that a run may begin. -/
def patience : Nat := 1000000

/-- Run a flow of a catalog. The only function is the one that gives back what it is sent. -/
def runFlow (s : Surroundings) (catalog : Catalog) (o : Options) (payload : Json) :
    Report Local.World :=
  let rehearsal : Local.Rehearsal :=
    { catalog, settings := EngineSettings.load s.environment, epoch := s.now, supply := s.supply,
      patience }
  rehearsal.report { flowId := o.flowId, payload, correlationId := o.correlationId } {}

/-- The exit after a run. -/
def Exit.ofEnding (flowId : String) : Ending → Exit
  | .completed outcome => { code := 0, output := outcomeText outcome }
  | .failed failure => Exit.failure failure.message
  | .unfinished => Exit.failure s!"Flow '{flowId}' began {natText patience} tasks without an end"

/-- The exit with the lines of the log in front of its output. -/
def Exit.behind (log : String) (e : Exit) : Exit := { e with output := log ++ e.output }

/-- Carry out what the options ask for: begin the log, load the flows, read the payload, run. -/
def start (s : Surroundings) (o : Options) : Exit :=
  let logging := LoggingSettings.load s.environment
  match LogFilter.read? logging.filter with
  | none => Exit.failure "Failed to initialize logging"
  | some filter =>
    let log := Journal.text filter logging.json
    let settings := Journal.settings s.environment
    match s.folder o.flows with
    | none => (Exit.failure s!"Failed to load flows from {o.flows}").behind (log settings)
    | some files =>
      let prepared := settings ++ Journal.folder FlowDocument.readFlow files
      match Json.read? o.payload with
      | none => (Exit.failure "Payload is not valid JSON").behind (log prepared)
      | some payload =>
        let report := runFlow s (Catalog.ofFiles FlowDocument.readFlow files) o payload
        (Exit.ofEnding o.flowId report.ending).behind (log (prepared ++ Journal.run o.flowId report))

/-- The program. -/
def run (s : Surroundings) (arguments : List String) : Exit :=
  match Invocation.ofArguments s.environment arguments with
  | .help => { code := 0, output := helpText }
  | .version => { code := 0, output := versionText }
  | .refused fault => Exit.misuse fault
  | .start options => start s options

end TaskFlow.CommandLine
