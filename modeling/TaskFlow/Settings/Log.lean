/-
TaskFlow.Settings.Log — what the program tells about its work.

  §1 Levels  — `LogLevel`, from faults to the smallest steps.
  §2 Records — `LogRecord`, the stretch of work that it belongs to, and its line.
-/
import TaskFlow.Json.Print
import TaskFlow.Text.Cut

namespace TaskFlow

open TaskFlow.Text

/-! ## §1 Levels -/

/-- The level of a record. -/
inductive LogLevel where
  | error
  | warn
  | info
  | debug
  | trace
deriving DecidableEq, Repr

namespace LogLevel

/-- The name of a level. -/
def name : LogLevel → String
  | error => "ERROR"
  | warn => "WARN"
  | info => "INFO"
  | debug => "DEBUG"
  | trace => "TRACE"

/-- How much detail a log must have to show records of a level. -/
def detail : LogLevel → Nat
  | error => 1
  | warn => 2
  | info => 3
  | debug => 4
  | trace => 5

end LogLevel

/-- The detail of a log that shows everything. -/
def fullDetail : Nat := 5

/-! ## §2 Records -/

/-- A stretch of work during which records are made. -/
structure LogSpan where
  name : String
  /-- The part of the program that does the work. -/
  target : String
  fields : List (String × String)
deriving DecidableEq, Repr

/-- One thing told. -/
structure LogRecord where
  level : LogLevel
  /-- The part of the program that tells it. -/
  target : String
  message : String
  fields : List (String × String) := []
  span : Option LogSpan := none
deriving DecidableEq, Repr

namespace LogRecord

/-- The record as a readable line. -/
def line (r : LogRecord) : String :=
  let fields := joined "" (r.fields.map fun (name, text) => s!" {name}={text}")
  s!"{r.level.name} {r.target}: {r.message}{fields}\n"

/-- The record as a line of JSON. -/
def jsonLine (r : LogRecord) : String :=
  let fields := ("message", Json.str r.message) :: r.fields.map fun (name, text) => (name, .str text)
  let record :=
    Json.ofFields [("level", .str r.level.name), ("target", .str r.target), ("fields", .ofFields fields)]
  String.ofList (record.print ++ ['\n'])

end LogRecord

end TaskFlow
