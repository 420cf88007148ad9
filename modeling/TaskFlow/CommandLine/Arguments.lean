/-
TaskFlow.CommandLine.Arguments — what the arguments of the program ask for.

  §1 Options     — `Options` and the flags that set them.
  §2 Faults      — `UsageFault`.
  §3 Reading     — `Given` collects flags and arguments; defaults and the environment fill the rest.
  §4 Invocations — `Invocation.ofArguments`.
-/
import TaskFlow.Text.Cut

namespace TaskFlow.CommandLine

open TaskFlow TaskFlow.Text

/-! ## §1 Options -/

/-- What to run. -/
structure Options where
  flowId : String
  /-- The folder with the flow documents. -/
  flows : String
  /-- The payload as JSON text. -/
  payload : String
  correlationId : Option String
deriving DecidableEq, Repr

/-- An option with a value. -/
inductive Flag where
  | flows
  | payload
  | correlationId
deriving DecidableEq, Repr

namespace Flag

/-- All flags. -/
def all : List Flag := [flows, payload, correlationId]

/-- The name of a flag. -/
def name : Flag → String
  | flows => "flows"
  | payload => "payload"
  | correlationId => "correlation-id"

/-- A flag with its value, as messages show it. -/
def usage : Flag → String
  | flows => "--flows <FLOWS>"
  | payload => "--payload <PAYLOAD>"
  | correlationId => "--correlation-id <CORRELATION_ID>"

/-- The flag with a name. -/
def ofName? (name : List Char) : Option Flag :=
  all.find? fun flag => flag.name.toList == name

end Flag

/-! ## §2 Faults -/

/-- What is wrong with the arguments. -/
inductive UsageFault where
  | unexpected (argument : String)
  | noValue (flag : Flag)
  | repeated (flag : Flag)
  | noFlow
deriving DecidableEq, Repr

/-- The wording of a fault of usage. -/
def UsageFault.message : UsageFault → String
  | unexpected argument => s!"unexpected argument '{argument}' found"
  | noValue flag => s!"a value is required for '{flag.usage}' but none was supplied"
  | repeated flag => s!"the argument '{flag.usage}' cannot be used multiple times"
  | noFlow => "the following required arguments were not provided:\n  <FLOW_ID>"

/-! ## §3 Reading -/

/-- What the arguments ask for. -/
inductive Invocation where
  | start (options : Options)
  | help
  | version
  | refused (fault : UsageFault)
deriving DecidableEq, Repr

/-- The arguments read so far. -/
structure Given where
  flowId : Option String := none
  values : List (Flag × String) := []

namespace Given

/-- The value of a flag. -/
def value? (g : Given) (flag : Flag) : Option String := g.values.lookup flag

/-- A flag with its value. A folder must not be empty. -/
def put (g : Given) (flag : Flag) (value : String) : Except UsageFault Given :=
  if (g.value? flag).isSome then .error (.repeated flag)
  else if flag = .flows ∧ value = "" then .error (.noValue flag)
  else .ok { g with values := (flag, value) :: g.values }

/-- The flow to run. -/
def putFlow (g : Given) (argument : String) : Except UsageFault Given :=
  match g.flowId with
  | none => .ok { g with flowId := some argument }
  | some _ => .error (.unexpected argument)

/-- The environment that names the folder where no flag does. -/
def folderVariable : String := "EVENTFLOW_FLOW_DIR"

/-- The options, with what the environment and the defaults add. -/
def options (g : Given) (environment : String → Option String) : Except UsageFault Options := do
  let flows := ((g.value? .flows).or (environment folderVariable)).getD "flows"
  if flows = "" then .error (.noValue .flows)
  match g.flowId with
  | none => .error .noFlow
  | some flowId =>
    .ok
      { flowId
        flows
        payload := (g.value? .payload).getD "\x7b\x7d"
        correlationId := g.value? .correlationId }

end Given

/-- How an argument is to be understood. -/
inductive Argument where
  | plain
  | help
  | version
  /-- All arguments behind it are plain. -/
  | endOfFlags
  | flag (name : Flag) (value : Option String)
  | unknown (shown : String)

/-- The kind of an argument. A dash alone is plain. -/
def Argument.ofText (argument : String) : Argument :=
  match argument.toList with
  | ['-', '-'] => .endOfFlags
  | '-' :: '-' :: long =>
    let (name, value) := match cutFirst '=' long with
      | some (name, value) => (name, some (String.ofList value))
      | none => (long, none)
    if name = "help".toList then .help
    else if name = "version".toList then .version
    else match Flag.ofName? name with
      | some found => .flag found value
      | none => .unknown (String.ofList ('-' :: '-' :: name))
  | ['-'] => .plain
  | '-' :: 'h' :: _ => .help
  | '-' :: 'V' :: _ => .version
  | '-' :: c :: _ => .unknown (String.ofList ['-', c])
  | _ => .plain

/-- The argument can be the value of the flag before it. -/
def Argument.isValue : Argument → Bool
  | .plain => true
  | _ => false

/-! ## §4 Invocations -/

namespace Invocation

/-- The arguments that come after all flags. -/
def readPlain (g : Given) : List String → Except UsageFault Given
  | [] => .ok g
  | argument :: rest => do
    let g ← g.putFlow argument
    readPlain g rest

/-- The invocation that more arguments ask for. -/
def read (environment : String → Option String) (g : Given) : List String → Invocation
  | [] => finish (g.options environment)
  | argument :: rest =>
    match Argument.ofText argument with
    | .help => help
    | .version => version
    | .unknown shown => refused (.unexpected shown)
    | .endOfFlags => finish ((readPlain g rest).bind fun g => g.options environment)
    | .plain =>
      match g.putFlow argument with
      | .ok g => read environment g rest
      | .error fault => refused fault
    | .flag flag (some value) =>
      match g.put flag value with
      | .ok g => read environment g rest
      | .error fault => refused fault
    | .flag flag none =>
      match rest with
      | value :: rest =>
        if (Argument.ofText value).isValue then
          match g.put flag value with
          | .ok g => read environment g rest
          | .error fault => refused fault
        else refused (.noValue flag)
      | [] => refused (.noValue flag)
where
  /-- The invocation with these options. -/
  finish : Except UsageFault Options → Invocation
    | .ok options => start options
    | .error fault => refused fault

/-- The invocation that the arguments ask for. -/
def ofArguments (environment : String → Option String) (arguments : List String) : Invocation :=
  read environment {} arguments

end Invocation

end TaskFlow.CommandLine
