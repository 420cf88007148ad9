/-
TaskFlow.Yaml.Tokens — the tokens of a whole document.

Indentation opens and closes block collections. A key needs no mark of its own: whatever could be one
is remembered as a candidate, and when a colon follows on the same line, the key token, and the
opening of a block map if this is its first key, are put in front of the candidate after the fact.

  §1 State      — `Scan`: the text ahead, the tokens so far, margins and candidates.
  §2 Margins    — opening block collections at a column and closing those that end.
  §3 Candidates — remembering and giving up possible keys.
  §4 Marks      — the tokens that indicators stand for.
  §5 Content    — scalars, names and tags.
  §6 The whole  — `tokens?`.
-/
import TaskFlow.Yaml.Token

namespace TaskFlow.Yaml

/-! ## §1 State -/

/-- A place where a key may have started. -/
structure Candidate where
  /-- How many tokens stand before it. -/
  position : Nat
  place : Place
  /-- Nothing but a key can stand there. -/
  required : Bool
deriving DecidableEq, Repr

/-- A key ends on the line where it starts and has at most this many bytes. -/
def longestKey : Nat := 1024

/-- The candidate can no longer become a key. -/
def Candidate.isStale (p : Place) (c : Candidate) : Bool :=
  c.place.line < p.line || c.place.offset + longestKey < p.offset

/-- A document while its tokens are read. -/
structure Scan where
  rest : List Char
  place : Place := {}
  /-- The tokens so far, last one first, and their number. -/
  tokens : List Token := []
  count : Nat := 0
  /-- The margins of the open block collections, innermost first: the least column of what they
  hold, one more than their own. -/
  margins : List Nat := []
  /-- A key may start here. -/
  keyAllowed : Bool := true
  /-- The candidate of the innermost flow collection, or of the blocks outside all of them. -/
  candidate : Option Candidate := none
  /-- The candidates of what surrounds the open flow collections, innermost first. -/
  outer : List (Option Candidate) := []

namespace Scan

/-- A flow collection is open. -/
def inFlow (s : Scan) : Bool := !s.outer.isEmpty

/-- The margin of the innermost block collection. -/
def margin (s : Scan) : Nat := s.margins.headD 0

/-- One more token. -/
def emit (token : Token) (s : Scan) : Scan :=
  { s with tokens := token :: s.tokens, count := s.count + 1 }

/-- Over some characters, none of them a line break. -/
def skip (n : Nat) (s : Scan) : Scan :=
  { s with rest := s.rest.drop n, place := s.place.after (s.rest.take n) }

/-- To the rest of a part that was read. -/
def moveTo {α : Type} (part : Part α) (s : Scan) : Scan :=
  { s with rest := part.rest, place := part.place }

/-! ## §2 Margins -/

/-- Put tokens in front of those from `position` on. -/
def emitBefore (position : Nat) (fresh : List Token) (s : Scan) : Scan :=
  let (newer, older) := s.tokens.splitAt (s.count - position)
  { s with tokens := newer ++ (fresh.reverse ++ older), count := s.count + fresh.length }

/-- A block collection at a column: it opens in front of the tokens from `position` on, unless one
at that column is open already. Flow collections know no margins. -/
def openBlock (token : Token) (column position : Nat) (s : Scan) : Scan :=
  if s.inFlow ∨ column < s.margin then s
  else { s.emitBefore position [token] with margins := (column + 1) :: s.margins }

/-- Close the block collections whose margin lies beyond `limit`. -/
def closeMargins (limit : Nat) : List Nat → List Nat × List Token
  | [] => ([], [])
  | m :: rest =>
    if limit < m then
      let (margins, tokens) := closeMargins limit rest
      (margins, .closeBlock :: tokens)
    else (m :: rest, [])

/-- Close the block collections that a line with this margin ends. -/
def closeBlocks (limit : Nat) (s : Scan) : Scan :=
  if s.inFlow then s
  else
    let (margins, closed) := closeMargins limit s.margins
    { s with margins, tokens := closed ++ s.tokens, count := s.count + closed.length }

/-! ## §3 Candidates -/

/-- Give the candidate up; nothing if only a key could have stood there. -/
def dropCandidate (s : Scan) : Option Scan :=
  match s.candidate with
  | some c => if c.required then none else some { s with candidate := none }
  | none => some s

/-- Remember a candidate here, where a key may start. -/
def saveCandidate (s : Scan) : Option Scan :=
  if s.keyAllowed then
    s.dropCandidate.map fun s =>
      let required := !s.inFlow && s.margin == s.place.column + 1
      { s with candidate := some ⟨s.count, s.place, required⟩ }
  else some s

/-- The candidate if it can still become a key; a required one must not be lost. -/
def freshCandidate? (p : Place) : Option Candidate → Option (Option Candidate)
  | some c => if c.isStale p then (if c.required then none else some none) else some (some c)
  | none => some none

/-- Forget the candidates that can no longer become keys. -/
def dropStale (s : Scan) : Option Scan := do
  let candidate ← freshCandidate? s.place s.candidate
  let outer ← s.outer.mapM (freshCandidate? s.place)
  some { s with candidate, outer }

/-! ## §4 Marks -/

/-- Blanks, comments and line breaks before the next token. After a line break outside flow
collections a key may start. A tab is no blank where a key may start, except in flow collections. A
byte order mark at the start of a line is skipped. -/
def skipGaps (inFlow inComment keyAllowed : Bool) (p : Place) : List Char → Part Bool
  | [] => ⟨keyAllowed, p, []⟩
  | c :: rest =>
    if isBreak c then skipGaps inFlow false (keyAllowed || !inFlow) (p.past c) rest
    else if inComment ∨ c = ' ' ∨ (c = '\t' ∧ (inFlow ∨ keyAllowed = false))
        ∨ (c = '\ufeff' ∧ p.column = 0) then
      skipGaps inFlow inComment keyAllowed (p.past c) rest
    else if c = '#' then skipGaps inFlow true keyAllowed (p.past c) rest
    else ⟨keyAllowed, p, c :: rest⟩

/-- To the start of the next token. -/
def toNext (s : Scan) : Scan :=
  let gap := skipGaps s.inFlow false s.keyAllowed s.place s.rest
  { s.moveTo gap with keyAllowed := gap.value }

/-- A mark of three characters between documents. -/
def boundary (token : Token) (s : Scan) : Option Scan := do
  let s ← (s.closeBlocks 0).dropCandidate
  some (({ s with keyAllowed := false }.emit token).skip 3)

/-- A directive. -/
def directive (s : Scan) : Option Scan := do
  let s ← (s.closeBlocks 0).dropCandidate
  let part ← readDirective (s.place.past '%') (s.rest.drop 1)
  some (({ s with keyAllowed := false }.emit part.value).moveTo part)

/-- The opening of a flow collection. -/
def openFlow (token : Token) (s : Scan) : Option Scan := do
  let s ← s.saveCandidate
  let s := { s with outer := s.candidate :: s.outer, candidate := none, keyAllowed := true }
  some ((s.emit token).skip 1)

/-- The closing of a flow collection. -/
def closeFlow (token : Token) (s : Scan) : Option Scan := do
  let s ← s.dropCandidate
  let s := match s.outer with
    | candidate :: outer => { s with candidate, outer }
    | [] => s
  some (({ s with keyAllowed := false }.emit token).skip 1)

/-- The comma between the entries of a flow collection. -/
def commaMark (s : Scan) : Option Scan := do
  let s ← s.dropCandidate
  some (({ s with keyAllowed := true }.emit .comma).skip 1)

/-- A token that opens a block collection of its own where it stands. -/
def openHere (token : Token) (s : Scan) : Option Scan :=
  if s.inFlow then some s
  else if s.keyAllowed then some (s.openBlock token s.place.column s.count)
  else none

/-- The dash before an item. -/
def itemMark (s : Scan) : Option Scan := do
  let s ← s.openHere .openBlockList
  let s ← s.dropCandidate
  some (({ s with keyAllowed := true }.emit .item).skip 1)

/-- The question mark before a key. -/
def keyMark (s : Scan) : Option Scan := do
  let s ← s.openHere .openBlockMap
  let s ← s.dropCandidate
  some (({ s with keyAllowed := !s.inFlow }.emit .key).skip 1)

/-- The colon before a value. It turns the candidate into a key. -/
def valueMark (s : Scan) : Option Scan :=
  match s.candidate with
  | some c =>
    let s := s.emitBefore c.position [.key]
    let s := s.openBlock .openBlockMap c.place.column c.position
    some (({ s with candidate := none, keyAllowed := false }.emit .value).skip 1)
  | none => do
    let s ← s.openHere .openBlockMap
    some (({ s with keyAllowed := !s.inFlow }.emit .value).skip 1)

/-! ## §5 Content -/

/-- A part of content that may be, or may begin, a key. -/
def content (read : Scan → Option (Part Token)) (s : Scan) : Option Scan := do
  let s ← s.saveCandidate
  let part ← read s
  some (({ s with keyAllowed := false }.emit part.value).moveTo part)

/-- A name behind its indicator. -/
def named (token : String → Token) (s : Scan) : Option (Part Token) :=
  match s.rest with
  | c :: rest => (readName (s.place.past c) rest).map fun part => { part with value := token part.value }
  | [] => none

/-- A quoted scalar. -/
def quoted (s : Scan) : Option (Part Token) :=
  match s.rest with
  | '\'' :: rest => (readSingleQuoted (s.place.past '\'') [] Gap.none rest).map fun part =>
    { part with value := .scalar .singleQuoted part.value }
  | '"' :: rest => (readDoubleQuoted (s.place.past '"') [] Gap.none rest).map fun part =>
    { part with value := .scalar .doubleQuoted part.value }
  | _ => none

/-- A plain scalar. When a line break follows it, a key may start there. -/
def plain (s : Scan) : Option Scan := do
  let s ← s.saveCandidate
  let part ← readPlain s.inFlow s.margin s.place [] Gap.none s.rest
  let (text, broken) := part.value
  some (({ s with keyAllowed := broken }.emit (.scalar .plain text)).moveTo part)

/-- A block scalar. -/
def block (style : Style) (s : Scan) : Option Scan := do
  let s ← s.dropCandidate
  let part ← readBlockScalar (style == .folded) s.margin (s.skip 1).place (s.skip 1).rest
  some (({ s with keyAllowed := true }.emit (.scalar style part.value)).moveTo part)

/-! ## §6 The whole -/

/-- The token that starts with `c`, before `rest`. -/
def token (c : Char) (rest : List Char) (s : Scan) : Option Scan :=
  if s.place.column = 0 ∧ c = '%' then s.directive
  else if isDocumentMark '-' s.place s.rest then s.boundary .documentStart
  else if isDocumentMark '.' s.place s.rest then s.boundary .documentEnd
  else if c = '[' then s.openFlow .openFlowList
  else if c = '\x7b' then s.openFlow .openFlowMap
  else if c = ']' then s.closeFlow .closeFlowList
  else if c = '\x7d' then s.closeFlow .closeFlowMap
  else if c = ',' then s.commaMark
  else if c = '-' ∧ atGap rest then s.itemMark
  else if c = '?' ∧ (s.inFlow ∨ atGap rest) then s.keyMark
  else if c = ':' ∧ (s.inFlow ∨ atGap rest) then s.valueMark
  else if c = '*' then s.content (named .alias)
  else if c = '&' then s.content (named .anchor)
  else if c = '!' then s.content fun s => readTag s.inFlow s.place s.rest
  else if c = '|' ∧ s.inFlow = false then s.block .literal
  else if c = '>' ∧ s.inFlow = false then s.block .folded
  else if c = '\'' ∨ c = '"' then s.content quoted
  else if isBlank c then none
  else if isIndicator c = false ∨ c = '-' ∨ (s.inFlow = false ∧ (c = '?' ∨ c = ':')) then s.plain
  else none

/-- The next token with the ends of the block collections before it; nothing more at the end. -/
def step (s : Scan) : Option (Scan × Bool) := do
  let s ← s.toNext.dropStale
  match s.rest with
  | [] => do
    let s ← (s.closeBlocks 0).dropCandidate
    some (s, true)
  | c :: rest => do
    let s ← (s.closeBlocks (s.place.column + 1)).token c rest
    some (s, false)

/-- The tokens to the end of the text, of which there are at most `steps`. -/
def run : (steps : Nat) → Scan → Option (List Token)
  | 0, _ => none
  | steps + 1, s =>
    match s.step with
    | none => none
    | some (s, true) => some s.tokens.reverse
    | some (s, false) => run steps s

end Scan

/-- The tokens of a text. Each takes at least one character. -/
def tokens? (text : List Char) : Option (List Token) :=
  (normalized? text).bind fun rest => Scan.run (rest.length + 1) { rest }

end TaskFlow.Yaml
