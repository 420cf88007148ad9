/-
TaskFlow.Proofs.Mapping.Grammar — mapping lines in writing.

A line is written as its source, an arrow between blanks and its target. A reader goes by prefixes,
first parentheses, first colons and last arrows, so not every line can be told from its text: a name
with a parenthesis would be cut short, a target with an arrow would be cut in two. A line is
`Regular` if its parts contain none of the marks that stand around them.

  §1 Constants — a kind and, in parentheses, a text or the JSON text of a value.
  §2 Sources   — arguments, conversions and the left sides of lines.
  §3 Targets   — the right sides, and on either side which of them there are.
  §4 Lines     — `Line.text`, `Line.Regular`.
-/
import TaskFlow.Json.Print
import TaskFlow.Mapping.Read
import TaskFlow.Proofs.Mapping.Redirection

namespace TaskFlow.Mapping

open TaskFlow TaskFlow.Text

/-! ## §1 Constants -/

/-- A word with something in parentheses behind it. -/
def enclosed (word inner : List Char) : List Char :=
  word ++ '(' :: (inner ++ [')'])

/-- A constant in writing. -/
def renderConstant : Json → List Char
  | .str s => enclosed "text".toList s.toList
  | .bool b => enclosed "boolean".toList (Json.bool b).print
  | v => enclosed "int".toList v.print

/-- The value is a text, a truth value or a whole number of 64 bits with its sign. -/
def IsConstant : Json → Prop
  | .str _ | .bool _ => True
  | .num (.whole w) => w.val < 0x8000000000000000
  | _ => False

/-- No beginning of the text closes more parentheses than it opens, and all are closed at the
end. -/
def Balanced (cs : List Char) : Prop :=
  (∀ front ∈ cs.inits, front.count ')' ≤ front.count '(') ∧ cs.count ')' = cs.count '('

instance : DecidablePred Balanced := fun cs =>
  inferInstanceAs (Decidable ((∀ front ∈ cs.inits, _) ∧ cs.count ')' = cs.count '('))

/-! ## §2 Sources -/

/-- The text has none of the marks by which arguments are told apart. -/
def IsPlain (cs : List Char) : Prop :=
  '(' ∉ cs ∧ ')' ∉ cs ∧ ',' ∉ cs

instance : DecidablePred IsPlain := fun cs =>
  inferInstanceAs (Decidable ('(' ∉ cs ∧ ')' ∉ cs ∧ ',' ∉ cs))

/-- The text is a path, and no blanks stand around it. -/
def IsPath (path : String) : Prop :=
  Path.isValid path = true ∧ Tidy path.toList

instance : DecidablePred IsPath := fun path =>
  inferInstanceAs (Decidable (Path.isValid path = true ∧ Tidy path.toList))

/-- The path leads below a key. -/
def IsBelow (space path : String) : Prop :=
  space.toList ++ ['.'] <+: path.toList

/-- The elements outside the model that lines of a side can read: all of the input, and on the
output side all of the result and of the headers, and the status. -/
def IsOffered : Side → String → Prop
  | .input, path => path = "input" ∨ IsBelow "input" path
  | .output, path =>
    path = "status" ∨ ∃ space ∈ ["input", "result", "header"], path = space ∨ IsBelow space path

/-- An element of the model. A colon would begin a type suffix. -/
def IsModelElement (path : String) : Prop :=
  IsPath path ∧ IsBelow "model" path ∧ ':' ∉ path.toList

/-- An argument in writing. -/
def Argument.render : Argument → List Char
  | .constant value => renderConstant value
  | .path element => element.toList

/-- An argument whose commas all stand in parentheses. -/
def Argument.Regular : Argument → Prop
  | .constant (.str s) => Balanced s.toList
  | .constant value => IsConstant value
  | .path element => IsPath element ∧ IsPlain element.toList

/-- A type suffix in writing. -/
def Conversion.render : Conversion → List Char
  | .text => "text".toList
  | .int => "int".toList
  | .long => "long".toList
  | .float => "float".toList
  | .double => "double".toList
  | .boolean => "boolean".toList
  | .negate => "!".toList
  | .length => "length".toList
  | .uuid => "uuid".toList
  | .substring start none => enclosed "substring".toList (ofNat start)
  | .substring start (some stop) =>
    enclosed "substring".toList (ofNat start ++ ',' :: ofNat stop)

/-- The indexes of a substring are words, and it ends behind its start. -/
def Conversion.Regular : Conversion → Prop
  | .substring start none => start < wordBound
  | .substring start (some stop) => start < stop ∧ stop < wordBound
  | _ => True

/-- A source in writing. -/
def Source.render : Source → List Char
  | .constant value => renderConstant value
  | .path element => element.toList
  | .typed element conversion => element.toList ++ ':' :: conversion.render
  | .call name args =>
    "f:".toList ++ enclosed name.toList (joinWith ", ".toList (args.map Argument.render))

/-- A source that lines of a side can have. -/
def Source.Regular (side : Side) : Source → Prop
  | .constant value => IsConstant value
  | .path element => IsModelElement element ∨ (IsPath element ∧ IsOffered side element)
  | .typed element conversion => IsModelElement element ∧ conversion.Regular
  | .call name args =>
    name ≠ "" ∧ '(' ∉ name.toList ∧ Tidy name.toList ∧ ∀ arg ∈ args, arg.Regular

/-! ## §3 Targets -/

/-- A target of the input side in writing. -/
def InputTarget.render : InputTarget → List Char
  | .header name => "header.".toList ++ name.toList
  | .model path | .body path => path.toList

/-- A target of the input side. An element of the body is written plainly, so its path must not look
like another target. -/
def InputTarget.Regular : InputTarget → Prop
  | .header name => name ≠ ""
  | .model path => Path.isValid path = true ∧ IsBelow "model" path
  | .body path =>
    Path.isValid path = true ∧ path ≠ "model" ∧ ¬IsBelow "model" path ∧ ¬IsBelow "header" path

/-- A target of the output side in writing. -/
def OutputTarget.render : OutputTarget → List Char
  | .model path | .output path => path.toList
  | .decision => "decision".toList

/-- A target of the output side. -/
def OutputTarget.Regular (allowDecision : Bool) : OutputTarget → Prop
  | .model path => Path.isValid path = true ∧ IsBelow "model" path
  | .output path => Path.isValid path = true ∧ IsBelow "output" path
  | .decision => allowDecision = true

/-! ## §4 Lines -/

/-- The two sides of a line with an arrow between them. -/
def lineText (source target : List Char) : String :=
  String.ofList (source ++ ' ' :: (arrow ++ ' ' :: target))

/-- The right side of a line contains no arrow, and no blanks stand around it. -/
def IsRightSide (target : List Char) : Prop :=
  ¬arrow <:+: target ∧ Tidy target

instance : DecidablePred IsRightSide := fun target =>
  inferInstanceAs (Decidable (¬arrow <:+: target ∧ Tidy target))

end TaskFlow.Mapping
