/-
TaskFlow.Mapping.Apply — running mapping lines.

Each line is expanded with the state as the lines before it left it, read, evaluated and written to
its target. A line that fails ends the mapping; the state keeps what was written before.

  §1 Evaluation — `evaluate` gives the value of a source, nothing for a missing element.
  §2 Lines      — `Outcome` is a state with a result or an error; `runLines` goes through the lines.
  §3 Input      — `mapInput` builds a request body and headers.
  §4 Output     — `mapOutput` gives the decision, if a line made one.
-/
import TaskFlow.Mapping.Convert
import TaskFlow.Mapping.Read
import TaskFlow.Plugin.Registry
import TaskFlow.Template

namespace TaskFlow.Mapping

open TaskFlow TaskFlow.Plugin

/-! ## §1 Evaluation -/

/-- The value of an argument; a missing element is null. -/
def evaluateArgument (s : Store) : Argument → Value
  | .constant value => Value.ofJson value
  | .path path => ((s.get? path).map Value.ofJson).getD .null

/-- The value of a source; nothing for a missing element. -/
def evaluate (plugins : Registry) (ambient : Ambient) (s : Store) :
    Source → Except Error (Option Json)
  | .constant value => .ok (some value)
  | .path path => .ok (s.get? path)
  | .typed path conversion => .ok (convert ambient.supply conversion (s.get? path))
  | .call name args =>
    match plugins.invoke ambient name (args.map (evaluateArgument s)) with
    | .ok value => .ok (some value.toJson)
    | .error e => .error (.plugin e)

/-! ## §2 Lines -/

/-- A state and what was made of it, or the error that came up. -/
structure Outcome (α : Type) where
  state : Store
  result : Except Error α

/-- An attempted write as an outcome. -/
def written {α : Type} (attempt : Store × Option StateFault) (made : α) : Outcome α :=
  match attempt with
  | (state, none) => ⟨state, .ok made⟩
  | (state, some fault) => ⟨state, .error (.state fault)⟩

/-- The state with a model element set to a value; null and nothing remove it. -/
def assign {α : Type} (s : Store) (path : String) (value : Option Json) (made : α) : Outcome α :=
  match value with
  | none | some .null => ⟨s.erase path, .ok made⟩
  | some v => written (s.set path v) made

/-- Every line in turn, numbered from `n`. -/
def runLines {α : Type} (run : Nat → String → Store → α → Outcome α) (n : Nat) :
    List String → Store → α → Outcome α
  | [], s, made => ⟨s, .ok made⟩
  | line :: rest, s, made =>
    match run n line s made with
    | ⟨next, .ok grown⟩ => runLines run (n + 1) rest next grown
    | ⟨next, .error e⟩ => ⟨next, .error e⟩

/-- One line expanded, read and evaluated, then handed to `write`. -/
def runLine {τ α : Type} (read : String → Except LineFault (Line τ)) (plugins : Registry)
    (ambient : Ambient) (write : Store → α → τ → Option Json → Outcome α)
    (line : String) (s : Store) (made : α) : Outcome α :=
  let expanded := Template.expand s line
  match read expanded with
  | .error fault => ⟨s, .error (lineError expanded fault)⟩
  | .ok parsed =>
    match evaluate plugins ambient s parsed.source with
    | .error e => ⟨s, .error e⟩
    | .ok value => write s made parsed.target value

/-! ## §3 Input -/

/-- A request body under construction and headers. -/
structure Draft where
  body : Store
  headers : Dictionary String
deriving DecidableEq

/-- The draft before any line. -/
def Draft.empty : Draft := ⟨Store.empty, []⟩

/-- A value written to a target of the input side. Headers take texts and skip null. -/
def writeInput (s : Store) (draft : Draft) : InputTarget → Option Json → Outcome Draft
  | .model path, value => assign s path value draft
  | .header _, none | .header _, some .null => ⟨s, .ok draft⟩
  | .header name, some v =>
    ⟨s, .ok { draft with headers := Dictionary.insert name (Template.textOf v) draft.headers }⟩
  | .body _, none => ⟨s, .ok draft⟩
  | .body path, some v =>
    match draft.body.set path v with
    | (body, none) => ⟨s, .ok { draft with body }⟩
    | (_, some fault) => ⟨s, .error (.state fault)⟩

/-- The input mapping of a task. -/
def mapInput (plugins : Registry) (ambient : Ambient) (lines : List String) (s : Store) :
    Outcome Draft :=
  runLines (fun n => runLine readInput plugins (ambient.branch n) writeInput) 0 lines s Draft.empty

/-! ## §4 Output -/

/-- A value written to a target of the output side. -/
def writeOutput (s : Store) (decision : Option Json) :
    OutputTarget → Option Json → Outcome (Option Json)
  | .model path, value => assign s path value decision
  | .output _, none => ⟨s, .ok decision⟩
  | .output path, some v => written (s.set path v) decision
  | .decision, value => ⟨s, .ok (some (value.getD .null))⟩

/-- The output mapping of a task. -/
def mapOutput (plugins : Registry) (ambient : Ambient) (allowDecision : Bool)
    (lines : List String) (s : Store) : Outcome (Option Json) :=
  runLines (fun n => runLine (readOutput allowDecision) plugins (ambient.branch n) writeOutput)
    0 lines s none

end TaskFlow.Mapping
