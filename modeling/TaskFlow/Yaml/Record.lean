/-
TaskFlow.Yaml.Record — reading records from the tree of a document.

A record is a map; a value that was left out is an empty one. Unknown fields are ignored and known
ones must not be repeated. Following aliases and entering collections are both limited, so that a
small document cannot stand for a huge one.

  §1 Limits   — `Decoding` counts the aliases that may still be followed.
  §2 Texts    — any scalar is a text; null words stand for nothing where a field is optional.
  §3 Lists and records — `list`, `fields`.
  §4 Values   — `value` reads a node without a prescribed shape.
-/
import TaskFlow.Yaml.Node
import TaskFlow.Yaml.Value

namespace TaskFlow.Yaml

/-! ## §1 Limits -/

/-- Reading with a number of aliases that may still be followed; nothing when the node has the wrong
shape. -/
abbrev Decoding (α : Type) : Type := StateT Nat Option α

namespace Decoding

/-- The node has the wrong shape. -/
def refuse {α : Type} : Decoding α := fun _ => none

/-- The node itself, or the one that an alias stands for. -/
def follow (tree : Tree) : Node → Decoding Node
  | .alias number => fun left =>
    match left, tree.anchored.lookup number with
    | left + 1, some node => some (node, left)
    | _, _ => none
  | node => pure node

/-- Collections may be entered this deep. -/
def deepest : Nat := 128

/-- How many aliases may be followed for each part of the document. -/
def aliasesPerPart : Nat := 100

/-! ## §2 Texts -/

/-- Any scalar as the text it was written with. -/
def text (tree : Tree) (node : Node) : Decoding String := do
  let node ← follow tree node
  match node with
  | .scalar _ _ s => pure s
  | _ => refuse

/-- The tag of null. -/
def nullTag : Tag := Tag.ofText "tag:yaml.org,2002:null"

/-- A scalar that was left out, or a plain word for null. A tag of its own makes it a value, and the
tag of null makes every other text wrong. -/
def isAbsent? (tag : Option Tag) (style : Style) (s : String) : Option Bool :=
  match style, tag with
  | .plain, none => some (s = "" || decide (s ∈ Value.nullWords))
  | .plain, some tag =>
    if tag = nullTag then (if s ∈ Value.nullWords then some true else none) else some false
  | _, _ => some false

/-- A value, or nothing. -/
def optional {α : Type} (tree : Tree) (read : Node → Decoding α) (node : Node) :
    Decoding (Option α) := do
  let node ← follow tree node
  match node with
  | .scalar tag style s =>
    match isAbsent? tag style s with
    | some true => pure none
    | some false => some <$> read node
    | none => refuse
  | _ => some <$> read node

/-! ## §3 Lists and records -/

/-- A list; what was left out is an empty one. -/
def list {α : Type} (tree : Tree) (read : Node → Decoding α) (node : Node) : Decoding (List α) := do
  let node ← follow tree node
  match node with
  | .list _ items => items.mapM read
  | .scalar _ .plain "" => pure []
  | _ => refuse

/-- The entries of a map; what was left out is an empty one. -/
def entries (tree : Tree) (node : Node) : Decoding (List (Node × Node)) := do
  let node ← follow tree node
  match node with
  | .map _ entries => pure entries
  | .scalar _ .plain "" => pure []
  | _ => refuse

/-- The fields of a record by name, of which only the known ones are kept. -/
abbrev Fields : Type := List (String × Node)

/-- The known fields of a record, each at most once. -/
def fields (tree : Tree) (known : List String) (node : Node) : Decoding Fields := do
  let found ← entries tree node
  let named ← found.mapM fun (k, x) => (·, x) <$> text tree k
  let kept := named.filter fun (name, _) => name ∈ known
  if (kept.map (·.1)).Nodup then pure kept else refuse

/-- A field with a default. -/
def orElse {α : Type} (fields : Fields) (name : String) (read : Node → Decoding α) (other : α) :
    Decoding α :=
  match fields.lookup name with
  | some node => read node
  | none => pure other

/-! ## §4 Values -/

/-- The tags of the standard that fix how a scalar is read. -/
inductive StandardTag where
  | bool
  | int
  | float
  | null
deriving DecidableEq

/-- The tag of the standard. -/
def standardTag? (tag : Tag) : Option StandardTag :=
  [(Tag.ofText "tag:yaml.org,2002:bool", .bool), (Tag.ofText "tag:yaml.org,2002:int", .int),
   (Tag.ofText "tag:yaml.org,2002:float", .float), (nullTag, .null)].lookup tag

/-- A text that a tag of the standard describes. -/
def tagged? (tag : StandardTag) (s : String) : Option Value :=
  match tag with
  | .bool => (Value.truth? s).map .bool
  | .int => ((Number.wholeNumber? s.toList).bind Whole.ofInt?).map fun w => .number (.whole w)
  | .float => (Number.double? s.toList).map fun x => .number (.real x)
  | .null => if s ∈ Value.nullWords then some .null else none

/-- A scalar without a tag of its own. -/
def scalar? (tag : Option Tag) (style : Style) (s : String) : Option Value :=
  match tag with
  | none => if style = .plain then Value.ofPlain? s else some (.text s)
  | some tag =>
    match standardTag? tag with
    | some standard => tagged? standard s
    | none => some (.text s)

/-- A value behind its tag, if that is one of its own. -/
def behindTag (tag : Option Tag) (v : Value) : Value :=
  match tag.bind Tag.ownName? with
  | some name => .tagged name v
  | none => v

/-- The keys of a map differ from each other. -/
def keysDiffer : List (Value × Value) → Bool
  | [] => true
  | (k, _) :: rest => !rest.any (fun (l, _) => k.same l) && keysDiffer rest

/-- A value of any shape, collections entered at most `depth` deep. -/
def value (tree : Tree) (depth : Nat) (node : Node) : Decoding Value := do
  let node ← follow tree node
  match node with
  | .alias _ => refuse
  | .scalar tag style s =>
    let plain := match tag.bind Tag.ownName? with
      | some _ => scalar? none style s
      | none => scalar? tag style s
    match plain with
    | some v => pure (behindTag tag v)
    | none => refuse
  | .list tag items =>
    match depth with
    | 0 => refuse
    | depth + 1 => do
      let items ← items.mapM (value tree depth)
      pure (behindTag tag (.list items))
  | .map tag entries =>
    match depth with
    | 0 => refuse
    | depth + 1 => do
      let entries ← entries.mapM fun (k, x) => do
        let k ← value tree depth k
        let x ← value tree depth x
        pure (k, x)
      if keysDiffer entries then pure (behindTag tag (.map entries)) else refuse

/-- Read the root of a document. -/
def run {α : Type} (tree : Tree) (read : Node → Decoding α) : Option α :=
  let root := tree.root.getD .empty
  (read root (aliasesPerPart * root.weight)).map (·.1)

end Decoding

end TaskFlow.Yaml
