/-
TaskFlow.Plugin.Builtin.Moment — the current time and fresh identifiers.

  §1 Zones   — `clockIn` reads the time in a named zone.
  §2 Plugins — dateTime, uuid.
-/
import TaskFlow.Calendar.Pattern
import TaskFlow.Calendar.ZoneTable
import TaskFlow.Plugin.Arity

namespace TaskFlow.Plugin.Moment

open TaskFlow TaskFlow.Plugin TaskFlow.Text TaskFlow.Calendar

/-! ## §1 Zones -/

/-- The text is this word in any case. -/
def isWord (word : String) (cs : List Char) : Bool :=
  cs.map Char.toLower == word.toList

/-- The time in a zone: none or `local` for the system's, which is UTC; `utc` or `Z`; a region; or an
offset. -/
def clockIn (now : Instant) (zone : String) : Except PluginError LocalTime :=
  let name := trim zone.toList
  if name.isEmpty || isWord "local" name || isWord "utc" name || name == ['Z'] then .ok ⟨now, 0⟩
  else match regionRule? (String.ofList name) with
    | some rule => .ok ⟨now, rule.offsetAt now⟩
    | none =>
      match offset? name with
      | some offset => .ok ⟨now, offset⟩
      | none => failed "dateTime" s!"unknown zone '{String.ofList name}'"

/-- The text of a time in a pattern; none or `iso` asks for the default form. -/
def inPattern (t : LocalTime) (pattern : List Char) : Except PluginError Value :=
  if pattern.isEmpty || isWord "iso" pattern then .ok (.text (String.ofList (isoText t)))
  else match readPattern? pattern with
    | none => failed "dateTime" s!"invalid pattern '{String.ofList pattern}'"
    | some items =>
      match write? t items with
      | some text => .ok (.text (String.ofList text))
      | none => failed "dateTime" s!"unable to format with '{String.ofList pattern}'"

/-! ## §2 Plugins -/

/-- The current time in a pattern and a zone, both optional. -/
def dateTime : Definition :=
  ⟨"dateTime", fun ambient args => do
    (Arity.atMost 2).check "dateTime" args
    let pattern := trim ((args[0]?.map Value.toText).getD "").toList
    let zone := (args[1]?.map Value.toText).getD ""
    let t ← clockIn ambient.now zone
    inPattern t pattern⟩

/-- A fresh identifier. -/
def uuid : Definition := ⟨"uuid", fun ambient _ => .ok (.text ambient.supply.uuid)⟩

/-- The plugins of this module. -/
def all : List Definition := [dateTime, uuid]

end TaskFlow.Plugin.Moment
