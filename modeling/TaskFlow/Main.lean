/-
TaskFlow.Main — the program: arguments, environment, files and clock in, texts and an exit code out.
-/
import Std.Time.DateTime.Timestamp
import TaskFlow.CommandLine.Program

namespace TaskFlow.CommandLine

/-- The variables that the program looks at. -/
def variableNames : List String :=
  [Given.folderVariable, "EVENTFLOW_SERVICE_NAME", "EVENTFLOW_LOG_FILTER", "EVENTFLOW_LOG_JSON"]
    ++ EngineSettings.variableNames

/-- The environment as far as the program looks at it. -/
def readEnvironment : IO (String → Option String) := do
  let values ← variableNames.mapM fun name => do
    let value ← IO.getEnv name
    return value.map fun v => (name, v)
  return fun name => (values.filterMap fun v => v).lookup name

/-- A regular file of a folder, its text if it can be read. -/
def readEntry (entry : IO.FS.DirEntry) : IO (Option SourceFile) := do
  let data ← entry.path.metadata
  match data.type with
  | .file =>
    let text ← try some <$> IO.FS.readFile entry.path catch _ => pure none
    return some ⟨entry.fileName, text⟩
  | _ => return none

/-- The regular files of a folder, if it can be read. -/
def readFolder (path : String) : IO (Option (List SourceFile)) := do
  let here : IO.FS.DirEntry := { root := path, fileName := "." }
  try
    let entries ← here.path.readDir
    let files ← entries.toList.mapM fun entry => try readEntry entry catch _ => pure none
    return some (files.filterMap fun f => f)
  catch _ => return none

/-- The time that the clock of the machine shows. -/
def readClock : IO Calendar.Instant := do
  let now ← Std.Time.Timestamp.now
  let nanos := now.toNanosecondsSinceUnixEpoch.val
  return ⟨nanos / 1000000000, (nanos % 1000000000).toNat⟩

/-- A supply of identifiers from the random numbers of the machine. -/
def readSupply : IO Supply := do
  let bytes ← IO.getRandomBytes 8
  return ⟨bytes.toList.foldl (fun word b => word * 256 + b.toUInt64) 0⟩

/-- Run the program in the surroundings that it finds. -/
def execute (arguments : List String) : IO Exit := do
  let environment ← readEnvironment
  let files ← match Invocation.ofArguments environment arguments with
    | .start options => readFolder options.flows
    | _ => pure none
  let now ← readClock
  let supply ← readSupply
  return run { environment, folder := fun _ => files, now, supply } arguments

end TaskFlow.CommandLine

/-- Run one flow instance and print its outcome. -/
def main (arguments : List String) : IO UInt32 := do
  let exit ← TaskFlow.CommandLine.execute arguments
  let output ← IO.getStdout
  let errors ← IO.getStderr
  output.putStr exit.output
  errors.putStr exit.errors
  return UInt32.ofNat exit.code
