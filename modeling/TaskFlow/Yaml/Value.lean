/-
TaskFlow.Yaml.Value — values of a document where no shape is prescribed.

  §1 Values  — `Value`; `same` is equality as keys of a map.
  §2 Words   — what plain text stands for: null, truth values and numbers, else itself.
  §3 Values of the data model — `Value.ofJson`.
-/
import TaskFlow.Json.Basic
import TaskFlow.Yaml.Number

namespace TaskFlow.Yaml

/-! ## §1 Values -/

/-- A value of a document. -/
inductive Value where
  | null
  | bool (b : Bool)
  | number (n : Number)
  | text (s : String)
  | list (items : List Value)
  | map (entries : List (Value × Value))
  /-- A value behind a tag of the document's own, which has a name. -/
  | tagged (name : String) (value : Value)

instance : Inhabited Value := ⟨.null⟩

namespace Value

mutual

/-- Two values are the same as keys of a map. The order of a map's entries does not matter. -/
def same : Value → Value → Bool
  | .null, .null => true
  | .bool a, .bool b => a == b
  | .number a, .number b => a.same b
  | .text a, .text b => a == b
  | .list a, .list b => sameItems a b
  | .map a, .map b => a.length == b.length && allIn a b
  | .tagged s a, .tagged t b => s == t && same a b
  | _, _ => false

/-- The items are the same one by one. -/
def sameItems : List Value → List Value → Bool
  | [], [] => true
  | x :: xs, y :: ys => same x y && sameItems xs ys
  | _, _ => false

/-- Every entry of the first map is one of the second. -/
def allIn : List (Value × Value) → List (Value × Value) → Bool
  | [], _ => true
  | (k, x) :: rest, others => others.any (fun (l, y) => same k l && same x y) && allIn rest others

end

/-! ## §2 Words -/

/-- The words for null. -/
def nullWords : List String := ["null", "Null", "NULL", "~"]

/-- The truth value of a word. -/
def truth? (word : String) : Option Bool :=
  if word ∈ ["true", "True", "TRUE"] then some true
  else if word ∈ ["false", "False", "FALSE"] then some false
  else none

/-- A double if the text is one, else the text. -/
def ofDoubleText (word : String) : Value :=
  if Number.isPadded (Binary.splitSign word.toList).2 then .text word
  else match Number.double? word.toList with
    | some x => .number (.real x)
    | none => .text word

/-- The value of a plain scalar; nothing for a whole number too large to be read. -/
def ofPlain? (word : String) : Option Value :=
  if word = "" ∨ word ∈ nullWords then some .null
  else match truth? word with
    | some b => some (.bool b)
    | none =>
      match Number.wholeNumber? word.toList with
      | some z =>
        match Whole.ofInt? z with
        | some w => some (.number (.whole w))
        | none => if Number.isWide z then none else some (ofDoubleText word)
      | none => some (ofDoubleText word)

/-! ## §3 Values of the data model -/

mutual

/-- A value of the data model as a value of a document. -/
def ofJson : Json → Value
  | .null => .null
  | .bool b => .bool b
  | .num n => .number (.ofJson n)
  | .str s => .text s
  | .arr items => .list (ofJsonItems items)
  | .obj fields => .map (ofJsonFields fields)

/-- A list of values of the data model. -/
def ofJsonItems : List Json → List Value
  | [] => []
  | x :: rest => ofJson x :: ofJsonItems rest

/-- The fields of an object of the data model. -/
def ofJsonFields : List (String × Json) → List (Value × Value)
  | [] => []
  | (k, x) :: rest => (.text k, ofJson x) :: ofJsonFields rest

end

end Value

end TaskFlow.Yaml
