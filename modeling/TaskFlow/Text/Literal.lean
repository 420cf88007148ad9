/-
TaskFlow.Text.Literal — texts as quoted literals in messages.

A literal stands in double quotes. Quotes and backslashes are escaped, the common control
characters have letters, and every other character that would not show is written by its code.
-/
import TaskFlow.Text.Unprintable

namespace TaskFlow.Text

/-- The hexadecimal digits of a number in lower case. -/
def hexDigits (n : Nat) : List Char :=
  Nat.toDigits 16 n

/-- One character of a literal. -/
def literalChar (c : Char) : List Char :=
  match c with
  | '\x00' => ['\\', '0']
  | '\t' => ['\\', 't']
  | '\n' => ['\\', 'n']
  | '\r' => ['\\', 'r']
  | '"' => ['\\', '"']
  | '\\' => ['\\', '\\']
  | _ =>
    if isUnprintable c then ['\\', 'u', '\x7b'] ++ hexDigits c.toNat ++ ['\x7d']
    else [c]

/-- A text as a quoted literal. -/
def literal (s : String) : String :=
  String.ofList ('"' :: (s.toList.flatMap literalChar ++ ['"']))

end TaskFlow.Text
