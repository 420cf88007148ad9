/-
TaskFlow.Json.Print — JSON text of a value.

  §1 Strings — `quote` puts a text in quotes and escapes what JSON asks for.
  §2 Compact — `Json.print` writes no blanks; fields stand in the order of the object.
  §3 Spread  — `Json.printSpread` writes one entry to a line, two blanks deeper at each level.
-/
import TaskFlow.Json.Basic

namespace TaskFlow.Json

open TaskFlow

/-! ## §1 Strings -/

/-- A hexadecimal digit in lower case. -/
def hexDigit (d : Nat) : Char :=
  if d < 10 then Char.ofNat ('0'.toNat + d) else Char.ofNat ('a'.toNat + (d - 10))

/-- One character inside quotes. -/
def escape (c : Char) : List Char :=
  match c with
  | '"' => ['\\', '"']
  | '\\' => ['\\', '\\']
  | '\x08' => ['\\', 'b']
  | '\x0c' => ['\\', 'f']
  | '\n' => ['\\', 'n']
  | '\r' => ['\\', 'r']
  | '\t' => ['\\', 't']
  | _ =>
    if c.toNat < 0x20 then
      ['\\', 'u', '0', '0', hexDigit (c.toNat / 16), hexDigit (c.toNat % 16)]
    else [c]

/-- A text in quotes. -/
def quote (s : String) : List Char :=
  '"' :: (s.toList.flatMap escape ++ ['"'])

/-! ## §2 Compact -/

mutual

/-- The compact JSON text of a value. -/
def print : Json → List Char
  | .null => "null".toList
  | .bool true => "true".toList
  | .bool false => "false".toList
  | .num n => n.print
  | .str s => quote s
  | .arr items => '[' :: (printItems items ++ [']'])
  | .obj fields => '\x7b' :: (printFields fields ++ ['\x7d'])

/-- Values with commas between them. -/
def printItems : List Json → List Char
  | [] => []
  | [x] => print x
  | x :: y :: rest => print x ++ ',' :: printItems (y :: rest)

/-- Fields with commas between them. -/
def printFields : List (String × Json) → List Char
  | [] => []
  | [(k, x)] => quote k ++ ':' :: print x
  | (k, x) :: y :: rest => quote k ++ ':' :: (print x ++ ',' :: printFields (y :: rest))

end

/-- The compact JSON text as a `String`. -/
def text (v : Json) : String :=
  String.ofList v.print

/-! ## §3 Spread -/

/-- A new line at a depth. -/
def newLine (depth : Nat) : List Char :=
  '\n' :: List.replicate (2 * depth) ' '

mutual

/-- The JSON text of a value with one entry to a line; empty containers stay closed. -/
def printSpread (depth : Nat) : Json → List Char
  | .arr [] => ['[', ']']
  | .arr items => '[' :: (spreadItems (depth + 1) items ++ newLine depth ++ [']'])
  | .obj [] => ['\x7b', '\x7d']
  | .obj fields => '\x7b' :: (spreadFields (depth + 1) fields ++ newLine depth ++ ['\x7d'])
  | .null => print .null
  | .bool b => print (.bool b)
  | .num n => print (.num n)
  | .str s => print (.str s)

/-- Values, each on a line of its own. -/
def spreadItems (depth : Nat) : List Json → List Char
  | [] => []
  | [x] => newLine depth ++ printSpread depth x
  | x :: y :: rest => newLine depth ++ printSpread depth x ++ ',' :: spreadItems depth (y :: rest)

/-- Fields, each on a line of its own. -/
def spreadFields (depth : Nat) : List (String × Json) → List Char
  | [] => []
  | [(k, x)] => newLine depth ++ quote k ++ ':' :: ' ' :: printSpread depth x
  | (k, x) :: y :: rest =>
    newLine depth ++ quote k ++ ':' :: ' ' :: (printSpread depth x ++ ',' :: spreadFields depth (y :: rest))

end

end TaskFlow.Json
