/-
TaskFlow.Yaml.Tag — the tags in front of values.

  §1 Tags    — `Tag` is a run of bytes, which is a text only if they encode one.
  §2 Reading — the characters of a tag; an escape is a percent sign and two digits.
  §3 Names   — `Tag.ownName?` names the tags of a document's own; `writtenTag` writes such a name.
-/
import TaskFlow.Json.Read
import TaskFlow.Yaml.Character

namespace TaskFlow.Yaml

open TaskFlow.Text

/-! ## §1 Tags -/

/-- A tag, of which a document can spell every byte. -/
structure Tag where
  bytes : List UInt8
deriving DecidableEq, Repr

namespace Tag

/-- The bytes of a text. -/
def ofText (s : String) : Tag := ⟨s.toUTF8.data.toList⟩

/-- The text that the bytes encode, if they encode one. -/
def text? (t : Tag) : Option String := String.fromUTF8? ⟨t.bytes.toArray⟩

/-- There are no bytes. -/
def isEmpty (t : Tag) : Bool := t.bytes.isEmpty

/-- The bytes of one tag behind those of another. -/
def append (s t : Tag) : Tag := ⟨s.bytes ++ t.bytes⟩

instance : Append Tag := ⟨append⟩

@[simp] theorem bytes_append (s t : Tag) : (s ++ t).bytes = s.bytes ++ t.bytes := rfl

end Tag

/-! ## §2 Reading -/

/-- A character of a tag; a verbatim tag may also hold commas and square brackets. -/
def isTagCharacter (verbatim : Bool) (c : Char) : Bool :=
  isWord c || c == ';' || c == '/' || c == '?' || c == ':' || c == '@' || c == '&' || c == '='
    || c == '+' || c == '$' || c == '.' || c == '!' || c == '~' || c == '*' || c == '\'' || c == '('
    || c == ')' || c == '%' || (verbatim && (c == ',' || c == '[' || c == ']'))

/-- How many bytes follow the first byte of a character; nothing if no character starts with it. -/
def followers? (byte : Nat) : Option Nat :=
  if byte < 0x80 then some 0
  else if 0xC0 ≤ byte ∧ byte < 0xE0 then some 1
  else if 0xE0 ≤ byte ∧ byte < 0xF0 then some 2
  else if 0xF0 ≤ byte ∧ byte < 0xF8 then some 3
  else none

/-- How many bytes still follow one of those behind the first byte of a character. -/
def afterFollower? (byte missing : Nat) : Option Nat :=
  if 0x80 ≤ byte ∧ byte < 0xC0 then some missing else none

/-- The bytes of tag characters. The escapes of the bytes of one character stand together, and
`missing` of them are still to come; whether the bytes encode a character is not asked. -/
def tagBytes? (missing : Nat) : List Char → Option (List UInt8)
  | [] => if missing = 0 then some [] else none
  | '%' :: a :: b :: rest => do
    let high ← Json.hexValue? a
    let low ← Json.hexValue? b
    let byte := 16 * high + low
    let missing ← match missing with
      | 0 => followers? byte
      | left + 1 => afterFollower? byte left
    let bytes ← tagBytes? missing rest
    some (UInt8.ofNat byte :: bytes)
  | c :: rest =>
    if c = '%' ∨ missing ≠ 0 then none else (tagBytes? 0 rest).map (UInt8.ofNat c.toNat :: ·)

/-- The tag that a run of tag characters spells. It ends before its first zero byte. -/
def Tag.ofCharacters? (run : List Char) : Option Tag :=
  (tagBytes? 0 run).map fun bytes => ⟨bytes.takeWhile (· ≠ 0)⟩

/-! ## §3 Names -/

/-- A text without an exclamation mark at its start, unless nothing else is there. -/
def withoutMark : List Char → List Char
  | '!' :: c :: rest => c :: rest
  | text => text

/-- The name of a tag of a document's own: such a tag is a text that starts with an exclamation
mark. One or two marks at the start are no part of the name. -/
def Tag.ownName? (t : Tag) : Option String :=
  t.text?.bind fun text =>
    if text.toList.head? = some '!' then some (String.ofList (withoutMark (withoutMark text.toList)))
    else none

/-- The characters of a name that stand behind the exclamation mark of the written tag. -/
def tagBody (name : String) : List Char :=
  match name.toList with
  | '!' :: rest => rest
  | cs => cs

/-- A number in upper case hexadecimal digits. -/
def upperHex : (digits n : Nat) → List Char
  | 0, _ => []
  | digits + 1, n =>
    let d := n % 16
    upperHex digits (n / 16) ++ [if d < 10 then digitChar d else Char.ofNat ('A'.toNat + (d - 10))]

/-- The escapes of the bytes of a character. -/
def tagEscape (c : Char) : List Char :=
  (String.utf8EncodeChar c).flatMap fun byte => '%' :: upperHex 2 byte.toNat

/-- A character that a written tag holds as it is. -/
def isPlainInTag (c : Char) : Bool := isTagCharacter true c && c != '!' && c != '%'

/-- The characters of a written tag. -/
def escapedTag (text : List Char) : List Char :=
  text.flatMap fun c => if isPlainInTag c then [c] else tagEscape c

/-- A tag as it is written in front of its value. The tag that is nothing but an exclamation mark
has a form of its own. -/
def writtenTag (name : String) : List Char :=
  match tagBody name with
  | [] => '!' :: '<' :: (escapedTag ['!'] ++ ['>'])
  | body => '!' :: escapedTag body

end TaskFlow.Yaml
