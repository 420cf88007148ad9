/-
TaskFlow.Yaml.Character — the characters of a document and their places.

  §1 Classes — breaks, blanks, the characters of names and of tags.
  §2 Texts   — `normalized?` refuses control characters and writes each line break one way.
  §3 Places  — `Place` is the offset, line and column of a character; `Place.past` moves over one.
-/
import TaskFlow.Text.Numeral

namespace TaskFlow.Yaml

open TaskFlow.Text

/-! ## §1 Classes -/

/-- A line break of a normalized text: a line feed, or one of the two Unicode separators. -/
def isBreak (c : Char) : Bool :=
  c == '\n' || c == '\u2028' || c == '\u2029'

/-- A line break of any text. -/
def isAnyBreak (c : Char) : Bool :=
  isBreak c || c == '\r' || c == '\u0085'

/-- A blank inside a line. -/
def isBlank (c : Char) : Bool :=
  c == ' ' || c == '\t'

/-- The text ends here, or a blank or a line break follows. -/
def atGap : List Char → Bool
  | [] => true
  | c :: _ => isBlank c || isBreak c

/-- A character of the name of an anchor or a tag handle. -/
def isWord (c : Char) : Bool :=
  isDigit c || ('a' ≤ c && c ≤ 'z') || ('A' ≤ c && c ≤ 'Z') || c == '_' || c == '-'

/-- A character that separates the parts of a flow collection. -/
def isFlowMark (c : Char) : Bool :=
  c == ',' || c == '[' || c == ']' || c == '\x7b' || c == '\x7d'

/-- A character that opens something else than a plain scalar. -/
def isIndicator (c : Char) : Bool :=
  isFlowMark c || c == '-' || c == '?' || c == ':' || c == '#' || c == '&' || c == '*' || c == '!'
    || c == '|' || c == '>' || c == '\'' || c == '"' || c == '%' || c == '@' || c == '\x60'

/-! ## §2 Texts -/

/-- A character that may stand in a document. -/
def isReadable (c : Char) : Bool :=
  let n := c.toNat
  n == 0x09 || n == 0x0A || n == 0x0D || (0x20 ≤ n && n ≤ 0x7E) || n == 0x85
    || (0xA0 ≤ n && n ≤ 0xD7FF) || (0xE000 ≤ n && n ≤ 0xFFFD) || 0x10000 ≤ n

/-- Carriage return, line feed, both together and next line all become a line feed. -/
def unifyBreaks : List Char → List Char
  | [] => []
  | '\r' :: '\n' :: rest => '\n' :: unifyBreaks rest
  | c :: rest => (if c = '\r' ∨ c = '\u0085' then '\n' else c) :: unifyBreaks rest

/-- The text with its line breaks written one way, if every character may stand in a document. -/
def normalized? (text : List Char) : Option (List Char) :=
  if text.all isReadable then some (unifyBreaks text) else none

/-! ## §3 Places -/

/-- The place of a character: how many bytes, and how many lines, stand before it, and how many
characters on its own line. -/
structure Place where
  offset : Nat := 0
  line : Nat := 0
  column : Nat := 0
deriving DecidableEq, Repr

/-- The place after a character. -/
def Place.past (p : Place) (c : Char) : Place :=
  if isBreak c then ⟨p.offset + c.utf8Size, p.line + 1, 0⟩
  else ⟨p.offset + c.utf8Size, p.line, p.column + 1⟩

/-- The place after a text. -/
def Place.after (p : Place) (text : List Char) : Place :=
  text.foldl Place.past p

/-- A marker of three equal characters that ends a document or starts the next stands here. -/
def isDocumentMark (mark : Char) (p : Place) : List Char → Bool
  | a :: b :: c :: rest => p.column == 0 && a == mark && b == mark && c == mark && atGap rest
  | _ => false

/-- One of the two markers between documents stands here. -/
def isBoundary (p : Place) (text : List Char) : Bool :=
  isDocumentMark '-' p text || isDocumentMark '.' p text

/-- A part of a text that was read: its value, the rest, and the place of the rest. -/
structure Part (α : Type) where
  value : α
  place : Place
  rest : List Char

end TaskFlow.Yaml
