/-
TaskFlow.Yaml.Scalar.Quoted — scalars in single and double quotes.

  §1 Single quotes — a quote inside is written twice.
  §2 Escapes       — the escapes of one character, and those with two, four or eight digits.
  §3 Double quotes — as single quotes, with escapes; an escaped line break adds nothing.
-/
import TaskFlow.Json.Read
import TaskFlow.Yaml.Scalar.Gap

namespace TaskFlow.Yaml

/-! ## §1 Single quotes -/

/-- The text up to the closing single quote. -/
def readSingleQuoted (p : Place) (done : List Char) (gap : Gap) : List Char → Option (Part String)
  | [] => none
  | '\'' :: '\'' :: rest =>
    readSingleQuoted ((p.past '\'').past '\'') ('\'' :: (gap.reversedText ++ done)) Gap.none rest
  | c :: rest =>
    if isBoundary p (c :: rest) then none
    else if isBlank c then readSingleQuoted (p.past c) done (gap.addBlank c) rest
    else if isBreak c then readSingleQuoted (p.past c) done (gap.addBreak c) rest
    else if c = '\'' then
      some ⟨String.ofList (gap.reversedText ++ done).reverse, p.past c, rest⟩
    else readSingleQuoted (p.past c) (c :: (gap.reversedText ++ done)) Gap.none rest

/-! ## §2 Escapes -/

/-- The character that an escape of one character stands for. -/
def escaped? : Char → Option Char
  | '0' => some '\x00'
  | 'a' => some '\x07'
  | 'b' => some '\x08'
  | 't' | '\t' => some '\t'
  | 'n' => some '\n'
  | 'v' => some '\x0b'
  | 'f' => some '\x0c'
  | 'r' => some '\r'
  | 'e' => some '\x1b'
  | ' ' => some ' '
  | '"' => some '"'
  | '/' => some '/'
  | '\\' => some '\\'
  | 'N' => some '\u0085'
  | '_' => some '\u00a0'
  | 'L' => some '\u2028'
  | 'P' => some '\u2029'
  | _ => none

/-- The value of hexadecimal digits read after `acc`. -/
def hexNumber? (acc : Nat) : List Char → Option Nat
  | [] => some acc
  | c :: rest => (Json.hexValue? c).bind fun d => hexNumber? (16 * acc + d) rest

/-- The character with a code in hexadecimal digits, if there is one. -/
def coded? (digits : List Char) : Option Char :=
  (hexNumber? 0 digits).bind fun n =>
    if h : n.isValidChar then some (Char.ofNatAux n h) else none

/-! ## §3 Double quotes -/

/-- The text up to the closing double quote. -/
def readDoubleQuoted (p : Place) (done : List Char) (gap : Gap) : List Char → Option (Part String)
  | [] => none
  | '\\' :: 'x' :: a :: b :: rest =>
    let digits := [a, b]
    (coded? digits).bind fun e =>
      readDoubleQuoted (p.after ('\\' :: 'x' :: digits)) (e :: (gap.reversedText ++ done)) Gap.none rest
  | '\\' :: 'u' :: a :: b :: c :: d :: rest =>
    let digits := [a, b, c, d]
    (coded? digits).bind fun e =>
      readDoubleQuoted (p.after ('\\' :: 'u' :: digits)) (e :: (gap.reversedText ++ done)) Gap.none rest
  | '\\' :: 'U' :: a :: b :: c :: d :: e :: f :: g :: h :: rest =>
    let digits := [a, b, c, d, e, f, g, h]
    (coded? digits).bind fun e =>
      readDoubleQuoted (p.after ('\\' :: 'U' :: digits)) (e :: (gap.reversedText ++ done)) Gap.none rest
  | '\\' :: c :: rest =>
    if isBreak c then
      readDoubleQuoted ((p.past '\\').past c) (gap.reversedText ++ done) (.lines none []) rest
    else
      (escaped? c).bind fun e =>
        readDoubleQuoted ((p.past '\\').past c) (e :: (gap.reversedText ++ done)) Gap.none rest
  | c :: rest =>
    if isBoundary p (c :: rest) ∨ c = '\\' then none
    else if isBlank c then readDoubleQuoted (p.past c) done (gap.addBlank c) rest
    else if isBreak c then readDoubleQuoted (p.past c) done (gap.addBreak c) rest
    else if c = '"' then
      some ⟨String.ofList (gap.reversedText ++ done).reverse, p.past c, rest⟩
    else readDoubleQuoted (p.past c) (c :: (gap.reversedText ++ done)) Gap.none rest

end TaskFlow.Yaml
