/-
TaskFlow.Mapping.Basic — mapping lines.

A mapping line says where a value comes from and where it goes: `source -> target`. Input lines build
the request of a task, output lines take its response back into the working state.

  §1 Sources — constants, elements, typed elements, plugin calls.
  §2 Targets — `InputTarget` and `OutputTarget`.
  §3 Lines   — `Line`.
-/
import TaskFlow.Json.Basic

namespace TaskFlow.Mapping

open TaskFlow

/-! ## §1 Sources -/

/-- A type suffix of a model element. -/
inductive Conversion where
  | text
  | int
  | long
  | float
  | double
  | boolean
  | negate
  | length
  | uuid
  | substring (start : Nat) (stop : Option Nat)
deriving DecidableEq, Repr

/-- An argument of a plugin call. -/
inductive Argument where
  | constant (value : Json)
  | path (path : String)
deriving DecidableEq

/-- Where a value comes from. -/
inductive Source where
  | constant (value : Json)
  | path (path : String)
  | typed (path : String) (conversion : Conversion)
  | call (plugin : String) (args : List Argument)
deriving DecidableEq

/-! ## §2 Targets -/

/-- Where a value for a request goes. -/
inductive InputTarget where
  | body (path : String)
  | header (name : String)
  | model (path : String)
deriving DecidableEq, Repr

/-- Where a value from a response goes. -/
inductive OutputTarget where
  | model (path : String)
  | output (path : String)
  /-- The choice of the next task. -/
  | decision
deriving DecidableEq, Repr

/-! ## §3 Lines -/

/-- A mapping line with targets of one side. -/
structure Line (τ : Type) where
  source : Source
  target : τ
deriving DecidableEq

end TaskFlow.Mapping
