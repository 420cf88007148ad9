/-
TaskFlow.Settings.Filter — which records a log shows.

A filter is a list of directives with commas between them. A directive is a level, or a target, a
span with fields, or both, with an optional level behind an equals sign.

  §1 Directives — `LogDirective`; `LogDirective.detail?` reads a level.
  §2 Reading    — `DirectiveState` reads one character at a time; `LogFilter.read?` is the whole.
  §3 Showing    — `LogFilter.shows`: the most specific directive decides, and directives on spans
                  add what they allow.
-/
import TaskFlow.Settings.Log
import TaskFlow.Text.Alphanumeric
import TaskFlow.Text.Blank
import TaskFlow.Text.Cut
import TaskFlow.Text.Numeral

namespace TaskFlow

open TaskFlow.Text

/-! ## §1 Directives -/

/-- How much detail is shown of some records. -/
structure LogDirective where
  /-- How the targets of the records start. -/
  target : Option String := none
  /-- The name of the span that the records belong to. -/
  span : Option String := none
  /-- The fields of the span, or without a span of the records, some with their texts. -/
  fields : List (String × Option String) := []
  /-- How much is shown, from nothing to everything. -/
  detail : Nat := fullDetail
deriving DecidableEq, Repr

namespace LogDirective

/-- The names of the levels, the silent one first. -/
def levelNames : List String := ["off", "error", "warn", "info", "debug", "trace"]

/-- A level is a name in any case, or a number from 0 to 5. -/
def detail? (word : List Char) : Option Nat :=
  (unsigned? levelNames.length word).or
    (levelNames.findIdx? (· == String.ofList (word.map Char.toLower)))

end LogDirective

/-! ## §2 Reading -/

/-- A directive up to some character: what is known of it, and the text of its open part, whose last
character comes first. -/
inductive DirectiveState where
  | start
  /-- A level, or the start of a target. -/
  | name (text : List Char)
  | span (known : LogDirective) (text : List Char)
  | field (known : LogDirective) (text : List Char)
  | afterField (known : LogDirective)
  | afterSpan (known : LogDirective)
  | level (known : LogDirective) (text : List Char)

/-- A character that may start a name. -/
def startsName (c : Char) : Bool :=
  c == '-' || c == ':' || c == '_' || isAlphanumeric c

/-- A field with what stands between the first equals sign and the next. -/
def spanField (text : List Char) : String × Option String :=
  match splitOn '=' text with
  | name :: value :: _ => (String.ofList name, some (String.ofList value))
  | _ => (String.ofList text, none)

namespace DirectiveState

/-- One more character. It is judged by `c`, and `kept` becomes part of the text. -/
def step (state : DirectiveState) (c kept : Char) : Option DirectiveState :=
  match state with
  | start =>
    if c = '[' then some (span {} []) else if startsName c then some (name [kept]) else none
  | name text =>
    let known : LogDirective := { target := some (String.ofList text.reverse) }
    if c = '=' then some (level known [])
    else if c = '[' then some (span known [])
    else some (name (kept :: text))
  | span known text =>
    let spanName := String.ofList text.reverse
    if c = ']' then some (afterSpan { known with span := some spanName })
    else if c = '\x7b' then
      some (field { known with span := if text.isEmpty then none else some spanName } [])
    else some (span known (kept :: text))
  | field known text =>
    if c = '\x7d' then
      if text.isEmpty then none
      else some (afterField { known with fields := known.fields ++ [spanField text.reverse] })
    else some (field known (kept :: text))
  | afterField known => if c = ']' then some (afterSpan known) else none
  | afterSpan known => if c = '=' then some (level known []) else none
  | level known text => some (level known (kept :: text))

/-- The directive that ends with some more characters of its open part. A level that is left out
means everything. -/
def finish? (state : DirectiveState) (more : List Char) : Option LogDirective :=
  match state with
  | name text =>
    let word := text.reverse ++ more
    match LogDirective.detail? word with
    | some detail => some { detail }
    | none => some { target := some (String.ofList word) }
  | afterSpan known => some known
  | level known text =>
    let word := text.reverse ++ more
    if word.isEmpty then some known
    else (LogDirective.detail? word).map fun detail => { known with detail }
  | _ => none

end DirectiveState

/-- A directive. Its parts are found in the text without the blanks around it, and are cut out at
the same distances from the start of the whole text. -/
def LogDirective.read? (text : List Char) : Option LogDirective :=
  let bare := trim text
  ((bare.zip text).foldlM (fun state (c, kept) => DirectiveState.step state c kept) .start).bind
    fun state => state.finish? (text.drop bare.length)

/-- A filter. -/
structure LogFilter where
  directives : List LogDirective
deriving DecidableEq, Repr

/-- The filter in a text; empty directives are ignored. -/
def LogFilter.read? (text : String) : Option LogFilter :=
  let pieces := (splitOn ',' text.toList).filter fun piece => !piece.isEmpty
  (pieces.mapM LogDirective.read?).map fun directives => ⟨directives⟩

/-! ## §3 Showing -/

namespace LogDirective

/-- The directive is about spans, or about fields with certain texts, which spans have. -/
def isOnSpans (d : LogDirective) : Bool :=
  d.span.isSome || d.fields.any fun (_, text) => text.isSome

/-- The directive is about records themselves. -/
def isOnRecords (d : LogDirective) : Bool :=
  d.span.isNone && d.fields.all fun (_, text) => text.isNone

/-- The target starts as the directive says. -/
def allowsTarget (d : LogDirective) (target : String) : Bool :=
  d.target.all fun start => startsWith start.toList target.toList

/-- The directive is about a record. -/
def isAbout (d : LogDirective) (r : LogRecord) : Bool :=
  d.isOnRecords && d.allowsTarget r.target
    && d.fields.all fun (name, _) => (r.fields.lookup name).isSome

/-- The directive is about what happens in a span. -/
def covers (d : LogDirective) (s : LogSpan) : Bool :=
  (d.isOnSpans || !d.fields.isEmpty) && d.allowsTarget s.target && d.span.all (· == s.name)
    && d.fields.all fun (name, text) =>
      match s.fields.lookup name with
      | some found => text.all (· == found)
      | none => false

/-- How specific a directive is: first by the length of its target, then by its fields. -/
def rank (d : LogDirective) : Nat × Nat :=
  ((d.target.map (·.utf8ByteSize + 1)).getD 0, d.fields.length)

/-- The first directive is more specific than the second. -/
def outranks (a b : LogDirective) : Bool :=
  b.rank.1 < a.rank.1 || (b.rank.1 == a.rank.1 && b.rank.2 < a.rank.2)

end LogDirective

namespace LogFilter

/-- The directives in force: without any, faults are shown. -/
def inForce (f : LogFilter) : List LogDirective :=
  if f.directives.isEmpty then [{ detail := LogLevel.error.detail }] else f.directives

/-- The most specific of some directives, of equal ones the last. -/
def mostSpecific? (directives : List LogDirective) : Option LogDirective :=
  directives.foldl
    (fun best d =>
      match best with
      | some b => if b.outranks d then some b else some d
      | none => some d)
    none

/-- The log shows a record. -/
def shows (f : LogFilter) (r : LogRecord) : Bool :=
  let bySpan := r.span.any fun s =>
    f.inForce.any fun d => d.covers s && r.level.detail ≤ d.detail
  let byRecord := (mostSpecific? (f.inForce.filter (·.isAbout r))).any fun d =>
    r.level.detail ≤ d.detail
  bySpan || byRecord

end LogFilter

end TaskFlow
