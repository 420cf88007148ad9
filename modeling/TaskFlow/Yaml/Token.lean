/-
TaskFlow.Yaml.Token — the tokens of a document, and those that are read without regard to layout.

  §1 Tokens     — `Token`.
  §2 Names      — anchors and aliases.
  §3 Tags       — handles, and what follows them.
  §4 Directives — the version and the tag directives; others are refused.
-/
import TaskFlow.Yaml.Scalar.Block
import TaskFlow.Yaml.Scalar.Plain
import TaskFlow.Yaml.Scalar.Quoted
import TaskFlow.Yaml.Tag

namespace TaskFlow.Yaml

open TaskFlow.Text

/-! ## §1 Tokens -/

/-- A token. The opening and closing of block collections stand where the indentation changes. -/
inductive Token where
  | version (major minor : Nat)
  | tagDirective (handle : String) (stem : Tag)
  | documentStart
  | documentEnd
  | openBlockList
  | openBlockMap
  | closeBlock
  | openFlowList
  | closeFlowList
  | openFlowMap
  | closeFlowMap
  /-- The dash before an item of a block list. -/
  | item
  /-- The comma between the entries of a flow collection. -/
  | comma
  | key
  | value
  | alias (name : String)
  | anchor (name : String)
  /-- A tag as a handle and what follows it; a verbatim tag has no handle. -/
  | tag (handle : String) (suffix : Tag)
  | scalar (style : Style) (text : String)
deriving DecidableEq, Repr

/-! ## §2 Names -/

/-- The characters at the start that satisfy a test, none of them a line break, and what follows. -/
def span (test : Char → Bool) (p : Place) (text : List Char) : Part (List Char) :=
  let found := text.takeWhile test
  ⟨found, p.after found, text.dropWhile test⟩

/-- A character that may follow the name of an anchor. -/
def endsName (text : List Char) : Bool :=
  atGap text || match text with
    | c :: _ => c == '?' || c == ':' || c == ',' || c == ']' || c == '\x7d' || c == '%' || c == '@'
        || c == '\x60'
    | [] => true

/-- The name of an anchor or an alias behind its indicator. -/
def readName (p : Place) (text : List Char) : Option (Part String) :=
  let name := span isWord p text
  if name.value.isEmpty ∨ endsName name.rest = false then none
  else some ⟨String.ofList name.value, name.place, name.rest⟩

/-! ## §3 Tags -/

/-- The handle at the start of a tag: an exclamation mark, or a name between two of them. A lone
mark with a name behind it is no handle but the start of the tag itself. -/
def readHandle (p : Place) : List Char → Option (Part (String × Bool))
  | '!' :: rest =>
    let name := span isWord (p.past '!') rest
    let text := String.ofList ('!' :: name.value)
    match name.rest with
    | '!' :: tail => some ⟨(text ++ "!", true), name.place.past '!', tail⟩
    | _ => some ⟨(text, false), name.place, name.rest⟩
  | _ => none

/-- A tag is followed by a gap, or in a flow collection by a comma. -/
def endsTag (inFlow : Bool) (text : List Char) : Bool :=
  atGap text || (inFlow && text.head? == some ',')

/-- A verbatim tag behind its opening bracket. -/
def readVerbatim (p : Place) (text : List Char) : Option (Part Token) := do
  let run := span (isTagCharacter true) p text
  let suffix ← Tag.ofCharacters? run.value
  match run.rest with
  | '>' :: rest =>
    if run.value.isEmpty then none else some ⟨.tag "" suffix, run.place.past '>', rest⟩
  | _ => none

/-- A tag that starts with a handle. -/
def readShorthand (p : Place) (text : List Char) : Option (Part Token) := do
  let handle ← readHandle p text
  let run := span (isTagCharacter false) handle.place handle.rest
  let suffix ← Tag.ofCharacters? run.value
  let (name, complete) := handle.value
  if complete then
    if run.value.isEmpty then none else some ⟨.tag name suffix, run.place, run.rest⟩
  else
    let whole := Tag.ofText (String.ofList (name.toList.drop 1)) ++ suffix
    if whole.isEmpty then some ⟨.tag "" (Tag.ofText "!"), run.place, run.rest⟩
    else some ⟨.tag "!" whole, run.place, run.rest⟩

/-- A tag. -/
def readTag (inFlow : Bool) (p : Place) (text : List Char) : Option (Part Token) := do
  let tag ← match text with
    | '!' :: '<' :: rest => readVerbatim ((p.past '!').past '<') rest
    | _ => readShorthand p text
  if endsTag inFlow tag.rest then some tag else none

/-! ## §4 Directives -/

/-- A part of a version: at most nine digits. -/
def readVersionPart (p : Place) (text : List Char) : Option (Part Nat) :=
  let digits := span isDigit p text
  if 9 < digits.value.length then none
  else (natural? digits.value).map fun n => ⟨n, digits.place, digits.rest⟩

/-- The version directive behind its name. -/
def readVersion (p : Place) (text : List Char) : Option (Part Token) := do
  let blanks := span isBlank p text
  let major ← readVersionPart blanks.place blanks.rest
  match major.rest with
  | '.' :: rest => do
    let minor ← readVersionPart (major.place.past '.') rest
    some ⟨.version major.value minor.value, minor.place, minor.rest⟩
  | _ => none

/-- The tag directive behind its name: a handle and what it stands for. -/
def readTagDirective (p : Place) (text : List Char) : Option (Part Token) := do
  let blanks := span isBlank p text
  let handle ← readHandle blanks.place blanks.rest
  let (name, complete) := handle.value
  let gap := span isBlank handle.place handle.rest
  let run := span (isTagCharacter true) gap.place gap.rest
  let stem ← Tag.ofCharacters? run.value
  if (complete ∨ name = "!") ∧ !gap.value.isEmpty ∧ !run.value.isEmpty ∧ atGap run.rest then
    some ⟨.tagDirective name stem, run.place, run.rest⟩
  else none

/-- A directive behind its percent sign, with the rest of its line. -/
def readDirective (p : Place) (text : List Char) : Option (Part Token) := do
  let name := span isWord p text
  let token ←
    if atGap name.rest = false then none
    else if name.value = "YAML".toList then readVersion name.place name.rest
    else if name.value = "TAG".toList then readTagDirective name.place name.rest
    else none
  let line ← readLineEnd false token.place token.rest
  some ⟨token.value, line.place, line.rest⟩

end TaskFlow.Yaml
