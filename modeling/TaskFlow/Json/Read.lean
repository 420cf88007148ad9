/-
TaskFlow.Json.Read — reading JSON text.

  §1 Tokens   — `Token.next?` reads one token; its rest is shorter than the input, so `tokens?`
                ends by the length of the text.
  §2 Strings  — escapes, with surrogate pairs joined and lone surrogates refused.
  §3 Numbers  — a numeral without fraction and exponent is whole when it fits; `-0` is not.
  §4 Assembly — `Cursor` puts tokens together with a stack of open containers; `read?` is the whole.
-/
import TaskFlow.Binary.Read
import TaskFlow.Json.Basic

namespace TaskFlow.Json

open TaskFlow TaskFlow.Text TaskFlow.Binary

/-! ## §1 Tokens -/

/-- A token of JSON text. -/
inductive Token where
  | openList
  | closeList
  | openObject
  | closeObject
  | comma
  | colon
  | value (v : Json)

/-- The value of a hexadecimal digit. -/
def hexValue? (c : Char) : Option Nat :=
  if '0' ≤ c ∧ c ≤ '9' then some (c.toNat - '0'.toNat)
  else if 'a' ≤ c ∧ c ≤ 'f' then some (c.toNat - 'a'.toNat + 10)
  else if 'A' ≤ c ∧ c ≤ 'F' then some (c.toNat - 'A'.toNat + 10)
  else none

/-- Four hexadecimal digits and the rest. -/
def hexQuad? : List Char → Option (Nat × List Char)
  | a :: b :: c :: d :: rest => do
    let a ← hexValue? a
    let b ← hexValue? b
    let c ← hexValue? c
    let d ← hexValue? d
    some (((a * 16 + b) * 16 + c) * 16 + d, rest)
  | _ => none

/-! ## §2 Strings -/

/-- The character that a one letter escape stands for. -/
def simpleEscape? : Char → Option Char
  | '"' => some '"'
  | '\\' => some '\\'
  | '/' => some '/'
  | 'b' => some '\x08'
  | 'f' => some '\x0c'
  | 'n' => some '\n'
  | 'r' => some '\r'
  | 't' => some '\t'
  | _ => none

/-- The code unit starts a surrogate pair. -/
def isHighSurrogate (n : Nat) : Bool := 0xD800 ≤ n && n ≤ 0xDBFF

/-- The code unit ends a surrogate pair. -/
def isLowSurrogate (n : Nat) : Bool := 0xDC00 ≤ n && n ≤ 0xDFFF

/-- The characters up to the closing quote and what follows it. A code unit `pending` waits for the
second half of its pair. -/
def readQuoted (pending : Option Nat) (done : List Char) : List Char → Option (String × List Char)
  | [] => none
  | '"' :: rest =>
    if pending.isSome then none else some (String.ofList done.reverse, rest)
  | '\\' :: 'u' :: a :: b :: c :: d :: rest =>
    match hexQuad? [a, b, c, d] with
    | none => none
    | some (unit, _) =>
      match pending with
      | some high =>
        if isLowSurrogate unit then
          let code := 0x10000 + (high - 0xD800) * 0x400 + (unit - 0xDC00)
          readQuoted none (Char.ofNat code :: done) rest
        else none
      | none =>
        if isHighSurrogate unit then readQuoted (some unit) done rest
        else if isLowSurrogate unit then none
        else readQuoted none (Char.ofNat unit :: done) rest
  | '\\' :: c :: rest =>
    match pending, simpleEscape? c with
    | none, some e => readQuoted none (e :: done) rest
    | _, _ => none
  | c :: rest =>
    if pending.isSome ∨ c = '\\' ∨ c.toNat < 0x20 then none
    else readQuoted none (c :: done) rest

/-! ## §3 Numbers -/

/-- The digits at the start and the rest. -/
def spanDigits (cs : List Char) : List Char × List Char :=
  (cs.takeWhile isDigit, cs.dropWhile isDigit)

/-- An optional fraction: the digits after the point, if there is a point, and the rest. -/
def fraction? : List Char → Option (Option (List Char) × List Char)
  | '.' :: rest =>
    let (digits, tail) := spanDigits rest
    if digits.isEmpty then none else some (some digits, tail)
  | cs => some (none, cs)

/-- An optional exponent and the rest. -/
def exponentPart? : List Char → Option (Option Int × List Char)
  | [] => some (none, [])
  | c :: rest =>
    if c = 'e' ∨ c = 'E' then
      let (negative, unsignedPart) := splitSign rest
      let (digits, tail) := spanDigits unsignedPart
      (natural? digits).map fun n => (some (if negative then -(n : Int) else n), tail)
    else some (none, c :: rest)

/-- The number with the parts of a numeral, if it is finite. -/
def numberOf? (negative : Bool) (whole : List Char) (fraction : Option (List Char))
    (exponent : Option Int) : Option Number :=
  let digits := whole ++ fraction.getD []
  (natural? digits).bind fun coefficient =>
    let float := ((Double.ofDecimal negative coefficient
      (exponent.getD 0 - (fraction.getD []).length)).finite?).map Number.real
    match fraction, exponent with
    | none, none =>
      if negative ∧ coefficient = 0 then float
      else match Whole.ofInt? (if negative then -(coefficient : Int) else coefficient) with
        | some w => some (.whole w)
        | none => float
    | _, _ => float

/-- A numeral behind its sign. A leading zero stands alone. -/
def readNumber? (negative : Bool) (cs : List Char) : Option (Number × List Char) := do
  let (whole, afterWhole) ← match cs with
    | '0' :: rest => some (['0'], rest)
    | _ =>
      let (digits, rest) := spanDigits cs
      if digits.isEmpty then none else some (digits, rest)
  let (fraction, afterFraction) ← fraction? afterWhole
  let (exponent, rest) ← exponentPart? afterFraction
  let number ← numberOf? negative whole fraction exponent
  some (number, rest)

/-- White space between tokens. -/
def isGap (c : Char) : Bool :=
  c == ' ' || c == '\t' || c == '\n' || c == '\r'

/-- The token at the start of a text without leading gaps, and the rest. -/
def Token.next? : List Char → Option (Token × List Char)
  | '[' :: rest => some (.openList, rest)
  | ']' :: rest => some (.closeList, rest)
  | '\x7b' :: rest => some (.openObject, rest)
  | '\x7d' :: rest => some (.closeObject, rest)
  | ',' :: rest => some (.comma, rest)
  | ':' :: rest => some (.colon, rest)
  | 't' :: 'r' :: 'u' :: 'e' :: rest => some (.value (.bool true), rest)
  | 'f' :: 'a' :: 'l' :: 's' :: 'e' :: rest => some (.value (.bool false), rest)
  | 'n' :: 'u' :: 'l' :: 'l' :: rest => some (.value .null, rest)
  | '"' :: rest => (readQuoted none [] rest).map fun (s, tail) => (.value (.str s), tail)
  | '-' :: rest => (readNumber? true rest).map fun (n, tail) => (.value (.num n), tail)
  | c :: rest =>
    if isDigit c then (readNumber? false (c :: rest)).map fun (n, tail) => (.value (.num n), tail)
    else none
  | [] => none

/-- The tokens of a text; nothing when some part of it is no token. -/
def tokens? (cs : List Char) : Option (List Token) :=
  match cs.dropWhile isGap with
  | [] => some []
  | text =>
    match Token.next? text with
    | none => none
    | some (token, rest) =>
      if rest.length < cs.length then (tokens? rest).map (token :: ·) else none
termination_by cs.length

/-! ## §4 Assembly -/

/-- An open container: the finished items, last first, or the finished fields and the key whose
value is awaited. -/
inductive Frame where
  | items (done : List Json)
  | fields (done : Dictionary Json) (key : Option String)

/-- What may come next. -/
inductive Awaiting where
  | value
  | itemOrClose
  | keyOrClose
  | key
  | colon
  | separator
  | nothing (result : Json)

/-- The state of the assembly. -/
structure Cursor where
  stack : List Frame
  awaiting : Awaiting

/-- A container may be open inside at most 126 others. -/
def maxDepth : Nat := 127

namespace Cursor

/-- A finished value goes into the innermost open container. -/
def put (v : Json) : List Frame → Option Cursor
  | [] => some ⟨[], .nothing v⟩
  | .items done :: outer => some ⟨.items (v :: done) :: outer, .separator⟩
  | .fields done (some key) :: outer =>
    some ⟨.fields (Dictionary.insert key v done) none :: outer, .separator⟩
  | .fields _ none :: _ => none

/-- The innermost container is finished. -/
def close : List Frame → Option Cursor
  | .items done :: outer => put (.arr done.reverse) outer
  | .fields done none :: outer => put (.obj done) outer
  | _ => none

/-- A container is opened. -/
def enter (frame : Frame) (awaiting : Awaiting) (stack : List Frame) : Option Cursor :=
  if stack.length < maxDepth then some ⟨frame :: stack, awaiting⟩ else none

/-- A value or the start of one. -/
def begin (token : Token) (stack : List Frame) : Option Cursor :=
  match token with
  | .value v => put v stack
  | .openList => enter (.items []) .itemOrClose stack
  | .openObject => enter (.fields [] none) .keyOrClose stack
  | _ => none

/-- The assembly after one more token. -/
def step (c : Cursor) (token : Token) : Option Cursor :=
  match c.awaiting, token, c.stack with
  | .value, _, stack => begin token stack
  | .itemOrClose, .closeList, stack => close stack
  | .itemOrClose, _, stack => begin token stack
  | .keyOrClose, .closeObject, stack => close stack
  | .keyOrClose, .value (.str s), .fields done none :: outer =>
    some ⟨.fields done (some s) :: outer, .colon⟩
  | .key, .value (.str s), .fields done none :: outer =>
    some ⟨.fields done (some s) :: outer, .colon⟩
  | .colon, .colon, stack => some ⟨stack, .value⟩
  | .separator, .comma, .items done :: outer => some ⟨.items done :: outer, .value⟩
  | .separator, .comma, .fields done none :: outer => some ⟨.fields done none :: outer, .key⟩
  | .separator, .closeList, .items done :: outer => close (.items done :: outer)
  | .separator, .closeObject, .fields done none :: outer => close (.fields done none :: outer)
  | _, _, _ => none

/-- The assembly before the first token. -/
def start : Cursor := ⟨[], .value⟩

end Cursor

/-- The value that a list of tokens spells. -/
def ofTokens? (tokens : List Token) : Option Json :=
  match tokens.foldlM Cursor.step Cursor.start with
  | some ⟨[], .nothing v⟩ => some v
  | _ => none

/-- The value that a JSON text stands for. -/
def read? (text : String) : Option Json :=
  (tokens? text.toList).bind ofTokens?

end TaskFlow.Json
