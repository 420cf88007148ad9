/-
TaskFlow.Template — references in texts.

A reference is a pair of braces around a text without braces. A reference that names an existing
element of the model is replaced by the text of that element; all else is copied as it stands, and
what was put in is not read again.

  §1 Filling     — `fill` replaces references by any function from their content.
  §2 The model   — `modelText?` is the text of the element a reference names; `expand` fills with it.
-/
import TaskFlow.Json.Print
import TaskFlow.Store

namespace TaskFlow.Template

open TaskFlow TaskFlow.Text

/-! ## §1 Filling -/

/-- The text with each reference replaced that `resolve` knows. A reference is what stands between
an open brace and the next closing one; if there is another open brace between them, it starts
there. -/
def fill (resolve : List Char → Option (List Char)) (text : List Char) : List Char :=
  match _hopen : cutFirst '\x7b' text with
  | none => text
  | some (before, after) =>
    match _hclose : cutFirst '\x7d' after with
    | none => text
    | some (content, rest) =>
      match _hnested : cutLast ['\x7b'] content with
      | some (outer, inner) =>
        before ++ '\x7b' :: outer ++ fill resolve ('\x7b' :: inner ++ '\x7d' :: rest)
      | none =>
        before ++ (resolve content).getD ('\x7b' :: content ++ ['\x7d']) ++ fill resolve rest
termination_by text.length
decreasing_by
  all_goals
    have htext := (eq_append_of_cutFirst _hopen).1
    have hafter := (eq_append_of_cutFirst _hclose).1
  · have hcontent := eq_append_of_cutLast _hnested
    simp [htext, hafter, hcontent]
    omega
  · simp [htext, hafter]
    omega

/-! ## §2 The model -/

/-- The text that an element contributes: strings as they are, null nothing, anything else as
compact JSON. -/
def textOf : Json → String
  | .str s => s
  | .null => ""
  | v => v.text

/-- The references that are filled start like this. -/
def modelStart : List Char := "model.".toList

/-- The text of the element that a reference names. Only elements of the model can be named, and
null has no text. -/
def modelText? (s : Store) (reference : List Char) : Option (List Char) :=
  if startsWith modelStart reference then
    match s.get? (String.ofList reference) with
    | none | some .null => none
    | some v => some (textOf v).toList
  else none

/-- The text with the references to the model filled in. -/
def expand (s : Store) (text : String) : String :=
  String.ofList (fill (modelText? s) text.toList)

end TaskFlow.Template
