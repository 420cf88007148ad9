/-
TaskFlow.Yaml.Node — the tree of a document.

  §1 Trees    — `Node`; `Tree` adds the nodes that anchors name.
  §2 Reading  — `Reader` holds the tokens ahead and the names seen; its parts are read by recursive
                descent, one function for each kind of collection.
  §3 Streams  — `tree?` reads a text that holds at most one document.
-/
import TaskFlow.Yaml.Tokens

namespace TaskFlow.Yaml

/-! ## §1 Trees -/

/-- A part of a document. An alias stands for the node with that number. -/
inductive Node where
  | scalar (tag : Option Tag) (style : Style) (text : String)
  | list (tag : Option Tag) (items : List Node)
  | map (tag : Option Tag) (entries : List (Node × Node))
  | alias (number : Nat)

instance : Inhabited Node := ⟨.alias 0⟩

namespace Node

/-- A scalar that was left out. -/
def empty : Node := .scalar none .plain ""

mutual

/-- The number of scalars, aliases and collection ends in a node. -/
def weight : Node → Nat
  | .scalar .. => 1
  | .alias _ => 1
  | .list _ items => 2 + weightItems items
  | .map _ entries => 2 + weightEntries entries

/-- The weight of a list of nodes. -/
def weightItems : List Node → Nat
  | [] => 0
  | x :: rest => weight x + weightItems rest

/-- The weight of a list of entries. -/
def weightEntries : List (Node × Node) → Nat
  | [] => 0
  | (k, x) :: rest => weight k + weight x + weightEntries rest

end

end Node

/-- A document: its root, and the nodes that aliases stand for, of which the first one with a number
counts. Without a root it is empty. -/
structure Tree where
  root : Option Node
  anchored : List (Nat × Node)

/-! ## §2 Reading -/

/-- Tokens on their way into a tree. -/
structure Reader where
  tokens : List Token
  /-- What tag handles stand for. -/
  handles : List (String × Tag) := []
  /-- The number that each name of an anchor stands for now. -/
  names : List (String × Nat) := []
  /-- The anchored nodes, the one that started last first. -/
  anchored : List (Nat × Node) := []

/-- Reading a part of a tree; nothing when the tokens do not form one. -/
abbrev Reading (α : Type) : Type := StateT Reader Option α

namespace Reader

/-- The next token. -/
def peek : Reading (Option Token) := do
  let r ← get
  return r.tokens.head?

/-- Over the next token. -/
def skip : Reading Unit :=
  modify fun r => { r with tokens := r.tokens.drop 1 }

/-- The reading fails. -/
def refuse {α : Type} : Reading α := fun _ => none

/-- Over the next token if it is this one; whether it was. -/
def skipIf (token : Token) : Reading Bool := do
  let next ← peek
  if next = some token then do
    skip
    return true
  else return false

/-- The next token is one of these. -/
def nextIs (tokens : List Token) : Reading Bool := do
  let next ← peek
  return match next with
    | some token => decide (token ∈ tokens)
    | none => false

/-- The tag with a handle and a suffix. -/
def resolveTag (handle : String) (suffix : Tag) : Reading Tag := do
  if handle = "" then return suffix
  else
    let r ← get
    match r.handles.lookup handle with
    | some stem => return stem ++ suffix
    | none => refuse

/-- A name is bound to the number of different names before it. A name that is used again takes a
new number, and so may share it with the next new name. -/
def bind (name : String) : Reading Nat := do
  let r ← get
  let number := r.names.length
  set { r with names := (name, number) :: r.names.filter (·.1 ≠ name) }
  return number

/-- The anchor and the tag in front of a node, in either order, each at most once. -/
def properties : Reading (Option String × Option Tag) := do
  let first ← peek
  match first with
  | some (.anchor name) => do
    skip
    let second ← peek
    match second with
    | some (.tag handle suffix) => do
      skip
      let tag ← resolveTag handle suffix
      return (some name, some tag)
    | _ => return (some name, none)
  | some (.tag handle suffix) => do
    skip
    let tag ← resolveTag handle suffix
    let second ← peek
    match second with
    | some (.anchor name) => do
      skip
      return (some name, some tag)
    | _ => return (none, some tag)
  | _ => return (none, none)

/-- What kind of node may stand in a place. -/
structure Setting where
  /-- A block collection may. -/
  block : Bool
  /-- A block list may, whose items stand in the column of the key before it. -/
  flush : Bool

/-- Inside a flow collection. -/
def inFlow : Setting := ⟨false, false⟩

/-- An item of a block list, or a whole document. -/
def inList : Setting := ⟨true, false⟩

/-- A key or a value of a block map. -/
def inMap : Setting := ⟨true, true⟩

/-- A scalar in place of a node that is not there. -/
def leftOut (optional : Bool) (tag : Option Tag) : Reading Node :=
  if optional then pure (.scalar tag .plain "") else refuse

/-- A comma, unless the entry is the first one of its flow collection. -/
def separator (first : Bool) : Reading Unit := do
  let comma ← skipIf .comma
  if first = comma then refuse else pure ()

mutual

/-- A node. -/
def node (depth : Nat) (setting : Setting) : Reading Node :=
  match depth with
  | 0 => refuse
  | depth + 1 => do
    let next ← peek
    match next with
    | some (.alias name) => do
      skip
      let r ← get
      match r.names.lookup name with
      | some number => return .alias number
      | none => refuse
    | _ => do
      let (anchor, tag) ← properties
      match anchor with
      | some name => do
        let number ← bind name
        let earlier := (← get).anchored
        modify fun r => { r with anchored := [] }
        let found ← content depth setting tag true
        modify fun r => { r with anchored := r.anchored ++ (number, found) :: earlier }
        return found
      | none => content depth setting tag tag.isSome

/-- A node behind its properties; it may be left out if there are any. -/
def content (depth : Nat) (setting : Setting) (tag : Option Tag) (optional : Bool) :
    Reading Node :=
  match depth with
  | 0 => refuse
  | depth + 1 => do
    let next ← peek
    match next with
    | some (.scalar style text) => do
      skip
      return .scalar tag style text
    | some .openFlowList => do
      skip
      let items ← flowItems depth true
      return .list tag items
    | some .openFlowMap => do
      skip
      let entries ← flowEntries depth true
      return .map tag entries
    | some .item =>
      if setting.flush then do
        let items ← flushItems depth
        return .list tag items
      else leftOut optional tag
    | some .openBlockList =>
      if setting.block then do
        skip
        let items ← blockItems depth
        return .list tag items
      else leftOut optional tag
    | some .openBlockMap =>
      if setting.block then do
        skip
        let entries ← blockEntries depth
        return .map tag entries
      else leftOut optional tag
    | _ => leftOut optional tag

/-- A node, or an empty one if one of these tokens is next. -/
def nodeUnless (depth : Nat) (setting : Setting) (ends : List Token) : Reading Node :=
  match depth with
  | 0 => refuse
  | depth + 1 => do
    let missing ← nextIs ends
    if missing then return .empty else node depth setting

/-- The items of a block list up to its end. -/
def blockItems (depth : Nat) : Reading (List Node) :=
  match depth with
  | 0 => refuse
  | depth + 1 => do
    let more ← skipIf .item
    if more then do
      let first ← nodeUnless depth inList [.item, .closeBlock]
      let rest ← blockItems depth
      return first :: rest
    else do
      let closed ← skipIf .closeBlock
      if closed then return [] else refuse

/-- The items of a list that stands in the column of a key. -/
def flushItems (depth : Nat) : Reading (List Node) :=
  match depth with
  | 0 => refuse
  | depth + 1 => do
    let more ← skipIf .item
    if more then do
      let first ← nodeUnless depth inList [.item, .key, .value, .closeBlock]
      let rest ← flushItems depth
      return first :: rest
    else return []

/-- The entries of a block map up to its end. -/
def blockEntries (depth : Nat) : Reading (List (Node × Node)) :=
  match depth with
  | 0 => refuse
  | depth + 1 => do
    let more ← skipIf .key
    if more then do
      let ends := [.key, .value, .closeBlock]
      let key ← nodeUnless depth inMap ends
      let given ← skipIf .value
      let value ← if given then nodeUnless depth inMap ends else pure .empty
      let rest ← blockEntries depth
      return (key, value) :: rest
    else do
      let closed ← skipIf .closeBlock
      if closed then return [] else refuse

/-- The items of a flow list up to its end. -/
def flowItems (depth : Nat) (first : Bool) : Reading (List Node) :=
  match depth with
  | 0 => refuse
  | depth + 1 => do
    let closed ← skipIf .closeFlowList
    if closed then return []
    else do
      separator first
      let pair ← skipIf .key
      if pair then do
        let entry ← flowPair depth
        let rest ← flowItems depth false
        return entry :: rest
      else do
        let closed ← skipIf .closeFlowList
        if closed then return []
        else do
          let item ← node depth inFlow
          let rest ← flowItems depth false
          return item :: rest

/-- A map of one entry, written without brackets as an item of a flow list. A missing key takes the
colon behind it along, so that its value must be missing as well. -/
def flowPair (depth : Nat) : Reading Node :=
  match depth with
  | 0 => refuse
  | depth + 1 => do
    let missing ← nextIs [.value, .comma, .closeFlowList]
    let key ←
      if missing then skip *> pure .empty else node depth inFlow
    let given ← skipIf .value
    let value ←
      if given then nodeUnless depth inFlow [.comma, .closeFlowList] else pure .empty
    return .map none [(key, value)]

/-- The entries of a flow map up to its end. An entry without a key token has no value. -/
def flowEntries (depth : Nat) (first : Bool) : Reading (List (Node × Node)) :=
  match depth with
  | 0 => refuse
  | depth + 1 => do
    let closed ← skipIf .closeFlowMap
    if closed then return []
    else do
      separator first
      let keyed ← skipIf .key
      if keyed then do
        let key ← nodeUnless depth inFlow [.value, .comma, .closeFlowMap]
        let given ← skipIf .value
        let value ← if given then nodeUnless depth inFlow [.comma, .closeFlowMap] else pure .empty
        let rest ← flowEntries depth false
        return (key, value) :: rest
      else do
        let closed ← skipIf .closeFlowMap
        if closed then return []
        else do
          let key ← node depth inFlow
          let rest ← flowEntries depth false
          return (key, .empty) :: rest

end

/-! ## §3 Streams -/

/-- A version that can be read. -/
def isKnownVersion (major minor : Nat) : Bool :=
  major == 1 && (minor == 1 || minor == 2)

/-- The directives in front of a document, at most one version and one meaning for each handle;
whether there were any. -/
def directives (versioned found : Bool) (handles : List (String × Tag)) :
    List Token → Option (Bool × List (String × Tag) × List Token)
  | .version major minor :: rest =>
    if versioned ∨ isKnownVersion major minor = false then none
    else directives true true handles rest
  | .tagDirective handle stem :: rest =>
    if (handles.lookup handle).isSome then none
    else directives versioned true ((handle, stem) :: handles) rest
  | tokens => some (found, handles, tokens)

/-- The handles that every document knows. -/
def standardHandles : List (String × Tag) :=
  [("!", Tag.ofText "!"), ("!!", Tag.ofText "tag:yaml.org,2002:")]

/-- The root of a document. After a start marker it may be left out. -/
def root (depth : Nat) (marked : Bool) : Reading Node := do
  let r ← get
  let ended := match r.tokens with
    | [] | .version .. :: _ | .tagDirective .. :: _ | .documentStart :: _ | .documentEnd :: _ => true
    | _ => false
  if marked && ended then return .empty else node depth inList

/-- The document that tokens form: nothing but end markers may follow it. -/
def tree? (tokens : List Token) : Option Tree := do
  let depth := 4 * tokens.length + 4
  let (directed, handles, rest) ← directives false false [] tokens
  let (marked, rest) := match rest with
    | .documentStart :: tail => (true, tail)
    | _ => (false, rest)
  if rest.isEmpty && !marked then
    if directed then none else some ⟨none, []⟩
  else if directed && !marked then none
  else do
    let (root, r) ← (root depth marked).run { tokens := rest, handles := handles ++ standardHandles }
    if r.tokens.all (· == .documentEnd) then some ⟨some root, r.anchored⟩ else none

end Reader

/-- The document in a text. -/
def tree? (text : String) : Option Tree :=
  (tokens? text.toList).bind Reader.tree?

end TaskFlow.Yaml
