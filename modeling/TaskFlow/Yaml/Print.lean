/-
TaskFlow.Yaml.Print — block text of a value.

  §1 Texts     — which style a text is written in, so that it reads back as that text.
  §2 Scalars   — quotes, escapes and literal blocks.
  §3 Placement — `Spot` says what a value is written behind, and so where its lines start.
  §4 Values    — `Value.print?`; a few maps have no text.

The text so far is held with its last character first.
-/
import TaskFlow.Text.Cut
import TaskFlow.Yaml.Scalar.Gap
import TaskFlow.Yaml.Tag
import TaskFlow.Yaml.Value

namespace TaskFlow.Yaml

open TaskFlow.Text

/-! ## §1 Texts -/

/-- The plain text would stand for something else. -/
def readsOtherwise (s : String) : Bool :=
  Number.isPadded (Binary.splitSign s.toList).2 ||
    match Value.ofPlain? s with
    | some (.text _) => false
    | _ => true

/-- A character that is written as it is. -/
def isPrintable (c : Char) : Bool :=
  let n := c.toNat
  n == 0x0A || (0x20 ≤ n && n ≤ 0x7E) || (0xA0 ≤ n && n ≤ 0xD7FF)
    || (0xE000 ≤ n && n ≤ 0xFFFD && n ≠ 0xFEFF) || 0x10000 ≤ n

/-- A text that starts like a boundary between documents. -/
def startsBoundary (text : List Char) : Bool :=
  startsWith ['-', '-', '-'] text || startsWith ['.', '.', '.'] text

/-- The first character would not start a plain scalar. -/
def startsMarked : List Char → Bool
  | [] => false
  | c :: rest =>
    if c = '-' ∨ c = '?' ∨ c = ':' then atGap rest else isIndicator c

/-- After its first character a plain scalar holds no colon before a gap and no number sign behind
one. -/
def holdsMark : List Char → Bool
  | c :: d :: rest =>
    (d == ':' && atGap rest) || (d == '#' && atGap [c]) || holdsMark (d :: rest)
  | _ => false

/-- A blank stands at one end or beside a line break. -/
def hasLooseBlank (text : List Char) : Bool :=
  text.head? == some ' ' || text.getLast? == some ' '

/-- A line break with a blank behind it, or before it. -/
def hasBlankAtBreak : List Char → Bool
  | c :: d :: rest => (isBreak c && d == ' ') || (c == ' ' && isBreak d) || hasBlankAtBreak (d :: rest)
  | _ => false

/-- A blank before a line break. -/
def hasTrailingBlank : List Char → Bool
  | c :: d :: rest => (c == ' ' && isBreak d) || hasTrailingBlank (d :: rest)
  | _ => false

/-- The text can be written without quotes. -/
def allowsPlain (text : List Char) : Bool :=
  text.all isPrintable && !text.any isBreak && !hasLooseBlank text && !startsBoundary text
    && !startsMarked text && !holdsMark text

/-- The text can be written in single quotes. -/
def allowsSingleQuotes (text : List Char) : Bool :=
  text.all isPrintable && !hasBlankAtBreak text

/-- The text can be written as a literal block. -/
def allowsBlock (text : List Char) : Bool :=
  text.all isPrintable && text.getLast? != some ' ' && !hasTrailingBlank text

/-- The style in which a text is written. -/
def styleOf (s : String) : Style :=
  let text := s.toList
  if '\n' ∈ text then
    if allowsBlock text then .literal else .doubleQuoted
  else if !readsOtherwise s && allowsPlain text then .plain
  else if allowsSingleQuotes text then .singleQuoted
  else .doubleQuoted

/-! ## §2 Scalars -/

/-- A text in front of the text so far. -/
def put (text out : List Char) : List Char := text.reverse ++ out

/-- To the start of a line at a column; a line that is still empty is used. -/
def startLine (column : Nat) (out : List Char) : List Char :=
  List.replicate column ' ' ++ if out.head?.any isBreak then out else '\n' :: out

/-- The indentation, if a line has just begun. -/
def indented (column : Nat) (atLineStart : Bool) (out : List Char) : List Char :=
  if atLineStart then List.replicate column ' ' ++ out else out

/-- A text in single quotes. The indentation stands before whatever begins a line, the closing quote
among it. -/
def putSingleQuoted (column : Nat) (text out : List Char) : List Char :=
  let step := fun (state : Bool × List Char) c =>
    let (atLineStart, out) := state
    if isBreak c then (true, c :: out)
    else
      let out := indented column atLineStart out
      (false, if c = '\'' then '\'' :: '\'' :: out else c :: out)
  let (atLineStart, out) := text.foldl step (false, '\'' :: out)
  '\'' :: indented column atLineStart out

/-- The letter of an escape of one character. -/
def escapeLetter? (c : Char) : Option Char :=
  [('\x00', '0'), ('\x07', 'a'), ('\x08', 'b'), ('\t', 't'), ('\n', 'n'), ('\x0b', 'v'),
   ('\x0c', 'f'), ('\r', 'r'), ('\x1b', 'e'), ('"', '"'), ('\\', '\\'), ('\u0085', 'N'),
   ('\u00a0', '_'), ('\u2028', 'L'), ('\u2029', 'P')].lookup c

/-- A character inside double quotes. -/
def escapeDouble (c : Char) : List Char :=
  if isPrintable c ∧ isBreak c = false ∧ c ≠ '"' ∧ c ≠ '\\' then [c]
  else match escapeLetter? c with
    | some letter => ['\\', letter]
    | none =>
      let n := c.toNat
      if n ≤ 0xFF then '\\' :: 'x' :: upperHex 2 n
      else if n ≤ 0xFFFF then '\\' :: 'u' :: upperHex 4 n
      else '\\' :: 'U' :: upperHex 8 n

/-- The header of a literal block: the depth if the text starts with a blank or a line break, and
what becomes of the line breaks at its end. -/
def literalHeader (text : List Char) : List Char :=
  let depth := match text with
    | c :: _ => if c = ' ' ∨ isBreak c then ['2'] else []
    | [] => []
  let chomping := match text.reverse with
    | [] => ['-']
    | [c] => if isBreak c then ['+'] else ['-']
    | c :: d :: _ => if !isBreak c then ['-'] else if isBreak d then ['+'] else []
  '|' :: (depth ++ chomping)

/-- A literal block whose lines start in a column. -/
def putLiteral (column : Nat) (text out : List Char) : List Char :=
  let step := fun (state : Bool × List Char) c =>
    let (atLineStart, out) := state
    if isBreak c then (true, c :: out) else (false, c :: indented column atLineStart out)
  (text.foldl step (true, '\n' :: put (literalHeader text) out)).2

/-- A text; the lines of a block start in a column. -/
def putText (column : Nat) (s : String) (out : List Char) : List Char :=
  match styleOf s with
  | .literal | .folded => putLiteral column s.toList out
  | .singleQuoted => putSingleQuoted column s.toList out
  | .doubleQuoted => '"' :: put (s.toList.flatMap escapeDouble) ('"' :: out)
  | .plain => put s.toList out

/-! ## §3 Placement -/

/-- What a value is written behind. The column is that of the collection around it. -/
inductive Behind where
  | nothing
  /-- The dash of an item. -/
  | dash (column : Nat)
  /-- The colon of an entry, on the same line as its key. -/
  | colon (column : Nat)
  /-- The mark of a key or a value that has a line of its own. -/
  | mark (column : Nat)

/-- The place of a value: what it is written behind, and whether its tag stands in between. -/
structure Spot where
  behind : Behind
  tagged : Bool := false

namespace Spot

/-- A blank, unless nothing stands before. -/
def gap (spot : Spot) (out : List Char) : List Char :=
  match spot.behind, spot.tagged with
  | .nothing, false => out
  | _, _ => ' ' :: out

/-- The column of the lines of a scalar. -/
def blockColumn (spot : Spot) : Nat :=
  match spot.behind with
  | .nothing => 2
  | .dash column | .colon column | .mark column => column + 2

/-- The column of the items of a list. Behind a key on the same line, and behind the tag of a value
with a line of its own, they are not indented. -/
def listColumn (spot : Spot) : Nat :=
  match spot.behind with
  | .nothing => 0
  | .dash column => column + 2
  | .colon column => column
  | .mark column => if spot.tagged then column else column + 2

/-- The column of the entries of a map. -/
def mapColumn (spot : Spot) : Nat :=
  match spot.behind with
  | .nothing => 0
  | .dash column | .colon column | .mark column => column + 2

/-- To the first line of a collection: a new one behind a key or a tag. -/
def enter (spot : Spot) (column : Nat) (out : List Char) : List Char :=
  match spot.behind, spot.tagged with
  | .colon _, _ => startLine column out
  | _, true => startLine column out
  | _, false => spot.gap out

end Spot

/-! ## §4 Values -/

namespace Value

/-- The longest key, in bytes, that is written on one line with its value. -/
def longestInlineKey : Nat := 128

/-- The bytes of a key that is written on one line with its value; nothing for other values. -/
def inlineLength? : Value → Option Nat
  | .text s => if s.toList.any isAnyBreak then none else some s.utf8ByteSize
  | .number n => some n.print.length
  | .null | .bool true => some 4
  | .bool false => some 5
  | .list items => if items.isEmpty then some 0 else none
  | .map entries => if entries.isEmpty then some 0 else none
  | .tagged name v => (inlineLength? v).map (· + 1 + (String.ofList (tagBody name)).utf8ByteSize)

/-- A key can be written on one line with its value. -/
def isInlineKey (v : Value) : Bool :=
  match v.inlineLength? with
  | some n => n ≤ longestInlineKey
  | none => false

mutual

/-- A value at a spot. -/
def write (spot : Spot) (v : Value) (out : List Char) : List Char :=
  match v with
  | .null => put "null".toList (spot.gap out)
  | .bool true => put "true".toList (spot.gap out)
  | .bool false => put "false".toList (spot.gap out)
  | .number n => put n.print (spot.gap out)
  | .text s => putText spot.blockColumn s (spot.gap out)
  | .list items =>
    if items.isEmpty then put "[]".toList (spot.gap out)
    else writeItems spot.listColumn true items (spot.enter spot.listColumn out)
  | .map entries =>
    if entries.isEmpty then put ['\x7b', '\x7d'] (spot.gap out)
    else writeEntries spot.mapColumn true entries (spot.enter spot.mapColumn out)
  | .tagged name v => write { spot with tagged := true } v (put (writtenTag name) (spot.gap out))

/-- The items of a list in a column; the line of the first one is there. -/
def writeItems (column : Nat) (first : Bool) (items : List Value) (out : List Char) : List Char :=
  match items with
  | [] => out
  | x :: rest =>
    let out := if first then out else startLine column out
    writeItems column false rest (write ⟨.dash column, false⟩ x ('-' :: out))

/-- The entries of a map in a column; the line of the first one is there. -/
def writeEntries (column : Nat) (first : Bool) (entries : List (Value × Value)) (out : List Char) :
    List Char :=
  match entries with
  | [] => out
  | (k, x) :: rest =>
    let out := if first then out else startLine column out
    let out :=
      if k.isInlineKey then write ⟨.colon column, false⟩ x (':' :: write ⟨.nothing, false⟩ k out)
      else
        let out := write ⟨.mark column, false⟩ k ('?' :: out)
        write ⟨.mark column, false⟩ x (':' :: startLine column out)
    writeEntries column false rest out

end

/-- Something that looks like a tag with what it stands in front of. -/
def looksTagged : Value → Bool
  | .tagged .. => true
  | .map entries => entries.length == 1
  | _ => false

/-- The only entry of a map has a key that looks like a tag with its value. -/
def isAmbiguous : List (Value × Value) → Bool
  | [(k, _)] => k.looksTagged
  | _ => false

mutual

/-- A map without a tag that could be taken for a tagged value has no text, nor has anything that
holds one. -/
def isWritable (tagged : Bool) : Value → Bool
  | .list items => areWritable items
  | .map entries => (tagged || !isAmbiguous entries) && entriesWritable entries
  | .tagged _ v => isWritable true v
  | _ => true

/-- Every item of a list has a text. -/
def areWritable : List Value → Bool
  | [] => true
  | x :: rest => isWritable false x && areWritable rest

/-- Every key and every value of a map has a text. -/
def entriesWritable : List (Value × Value) → Bool
  | [] => true
  | (k, x) :: rest => isWritable false k && isWritable false x && entriesWritable rest

end

/-- The block text of a value, if it has one. -/
def print? (v : Value) : Option String :=
  if v.isWritable false then some (String.ofList (write ⟨.nothing, false⟩ v []).reverse) else none

end Value

end TaskFlow.Yaml
