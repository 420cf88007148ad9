/-
TaskFlow.Mapping.Read — reading mapping lines.

A line is cut at its last arrow. Its left side is a plugin call, a constant or a path; its right side
a target.

  §1 Constants — `constant?` reads `text(..)`, `int(..)`, `float(..)`, `boolean(..)` and the like.
  §2 Calls     — arguments are cut at commas outside parentheses.
  §3 Sources   — `readSource`; which namespaces are readable depends on the side.
  §4 Targets   — `readInputTarget`, `readOutputTarget`.
  §5 Lines     — `readInput`, `readOutput`.
-/
import TaskFlow.Binary.Read
import TaskFlow.Error
import TaskFlow.Mapping.Basic
import TaskFlow.Plugin.Value

namespace TaskFlow.Mapping

open TaskFlow TaskFlow.Text TaskFlow.Binary

/-! ## §1 Constants -/

/-- The text says `true`, in any case and with blanks around it. -/
def readBoolean (inner : List Char) : Bool :=
  Plugin.Value.saysTrue (String.ofList inner)

/-- A whole number of 64 bits, blanks around it ignored. -/
def readWhole (inner : List Char) : Except LineFault Json :=
  match Plugin.Value.long? (trim inner) with
  | some n => .ok (Json.ofInt64 n)
  | none => .error (.notWhole (String.ofList inner))

/-- A finite float, blanks around it ignored. -/
def readFloat (inner : List Char) : Except LineFault Json :=
  match (Double.read? (trim inner)).bind Double.finite? with
  | some x => .ok (.num (.real x))
  | none => .error (.notNumber (String.ofList inner))

/-- The constant of a kind; nothing when there is no such kind. -/
def ofKind? (kind inner : List Char) : Option (Except LineFault Json) :=
  match String.ofList kind with
  | "text" => some (.ok (.str (String.ofList inner)))
  | "int" | "long" => some (readWhole inner)
  | "float" | "double" => some (readFloat inner)
  | "boolean" => some (.ok (.bool (readBoolean inner)))
  | _ => none

/-- The constant that a text spells; nothing when it is no constant at all. -/
def constant? (cs : List Char) : Option (Except LineFault Json) := do
  let opened ← beforeLast? ')' cs
  let (kind, inner) ← cutFirst '(' opened
  ofKind? kind inner

/-! ## §2 Calls -/

/-- A character in front of the first piece. -/
def consFirst (c : Char) : List (List Char) → List (List Char)
  | piece :: pieces => (c :: piece) :: pieces
  | [] => [[c]]

/-- The nesting depth after a character; closing parentheses below zero are ignored. -/
def depthAfter (depth : Nat) (c : Char) : Nat :=
  if c = '(' then depth + 1 else if c = ')' then depth - 1 else depth

/-- The pieces between commas outside parentheses. -/
def splitArgs (depth : Nat) : List Char → List (List Char)
  | [] => [[]]
  | c :: rest =>
    if c = ',' ∧ depth = 0 then [] :: splitArgs depth rest
    else consFirst c (splitArgs (depthAfter depth c) rest)

/-- A text must spell a path. -/
def checkPath (cs : List Char) : Except LineFault String :=
  let text := String.ofList cs
  if Path.isValid text then .ok text else .error (.badPath text)

/-- An argument: a constant or a path. -/
def readArgument (cs : List Char) : Except LineFault Argument :=
  match constant? cs with
  | some value => value.map .constant
  | none => (checkPath cs).map .path

/-- The arguments between the parentheses of a call. -/
def readArguments (inner : List Char) : Except LineFault (List Argument) :=
  if (trim inner).isEmpty then .ok []
  else ((splitArgs 0 inner).map trim).mapM readArgument

/-- A plugin call behind its mark. -/
def readCall (cs : List Char) : Except LineFault Source :=
  match (beforeLast? ')' cs).bind (cutFirst '(') with
  | none => .error .callShape
  | some (name, inner) =>
    if (trim name).isEmpty then .error .pluginNameMissing
    else (readArguments inner).map (.call (String.ofList (trim name)))

/-! ## §3 Sources -/

/-- An index of a substring. -/
def readIndex (cs : List Char) : Except LineFault Nat :=
  match unsigned? wordBound cs with
  | some n => .ok n
  | none => .error (.badIndex (String.ofList cs))

/-- The substring between the parentheses. -/
def readSubstring (bounds : List Char) : Except LineFault Conversion :=
  match (splitOn ',' bounds).map trim with
  | [start] => do
    let start ← readIndex start
    .ok (.substring start none)
  | [start, stop] => do
    let start ← readIndex start
    let stop ← readIndex stop
    if stop ≤ start then .error .emptySubstring else .ok (.substring start (some stop))
  | _ => .error .substringArity

/-- A type suffix. -/
def readConversion (suffix : List Char) : Except LineFault Conversion :=
  match String.ofList suffix with
  | "text" => .ok .text
  | "int" => .ok .int
  | "long" => .ok .long
  | "float" => .ok .float
  | "double" => .ok .double
  | "boolean" => .ok .boolean
  | "!" => .ok .negate
  | "length" => .ok .length
  | "uuid" => .ok .uuid
  | other =>
    match (afterPrefix? "substring(".toList suffix).bind (beforeLast? ')') with
    | some bounds => readSubstring bounds
    | none => .error (.unknownType other)

/-- The side of a task that a line belongs to. -/
inductive Side where
  | input
  | output
deriving DecidableEq, Repr

/-- The path is a namespace or leads into it. -/
def inNamespace (space : String) (cs : List Char) : Bool :=
  cs == space.toList || startsWith (space ++ ".").toList cs

/-- Sources outside the model that lines of a side may read. -/
def isReadable : Side → List Char → Bool
  | .input, cs => inNamespace "input" cs
  | .output, cs =>
    inNamespace "input" cs || inNamespace "result" cs || inNamespace "header" cs
      || cs == "status".toList

/-- A source inside the model, with its type suffix if there is a colon. -/
def readModelSource (cs : List Char) : Except LineFault Source :=
  match cutFirst ':' cs with
  | none => (checkPath cs).map .path
  | some (path, suffix) => do
    let path ← checkPath (trim path)
    let conversion ← readConversion (trim suffix)
    .ok (.typed path conversion)

/-- The left side of a line. -/
def readSource (side : Side) (cs : List Char) : Except LineFault Source :=
  match afterPrefix? "f:".toList cs with
  | some call => readCall call
  | none =>
    match constant? cs with
    | some value => value.map .constant
    | none =>
      if cs = "model".toList then .error .wholeModelSource
      else if startsWith "model.".toList cs then readModelSource cs
      else if isReadable side cs then (checkPath cs).map .path
      else .error (.unreadable (String.ofList cs))

/-! ## §4 Targets -/

/-- The right side of an input line. -/
def readInputTarget (cs : List Char) : Except LineFault InputTarget :=
  match afterPrefix? "header.".toList cs with
  | some name =>
    if name.isEmpty then .error .headerNameMissing else .ok (.header (String.ofList name))
  | none =>
    if cs = "model".toList then .error .wholeModelTarget
    else if startsWith "model.".toList cs then (checkPath cs).map .model
    else (checkPath cs).map .body

/-- The right side of an output line. -/
def readOutputTarget (allowDecision : Bool) (cs : List Char) : Except LineFault OutputTarget :=
  if cs = "decision".toList then
    if allowDecision then .ok .decision else .error .decisionNotAllowed
  else if startsWith "model.".toList cs then (checkPath cs).map .model
  else if startsWith "output.".toList cs then (checkPath cs).map .output
  else .error .badOutputTarget

/-! ## §5 Lines -/

/-- The two sides of a line. -/
def readSides (cs : List Char) : Except LineFault (List Char × List Char) :=
  match cutLast "->".toList cs with
  | none => .error .noArrow
  | some (left, right) =>
    let left := trim left
    let right := trim right
    if left.isEmpty || right.isEmpty then .error .sideMissing
    else if left = right then .error .sameSides
    else .ok (left, right)

/-- A line whose sides are read one after the other. -/
def readLine {τ : Type} (side : Side) (readTarget : List Char → Except LineFault τ)
    (line : String) : Except LineFault (Line τ) := do
  let (left, right) ← readSides line.toList
  let source ← readSource side left
  let target ← readTarget right
  .ok ⟨source, target⟩

/-- An input line. -/
def readInput (line : String) : Except LineFault (Line InputTarget) :=
  readLine .input readInputTarget line

/-- An output line; the decision is a target only where it is allowed. -/
def readOutput (allowDecision : Bool) (line : String) : Except LineFault (Line OutputTarget) :=
  readLine .output (readOutputTarget allowDecision) line

/-- The error of a line with a fault. -/
def lineError (line : String) (fault : LineFault) : Error :=
  .mapping (.badLine line fault)

end TaskFlow.Mapping
