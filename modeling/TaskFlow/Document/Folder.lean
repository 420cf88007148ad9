/-
TaskFlow.Document.Folder — loading all flows of a folder.

  §1 Files   — `SourceFile`; which names are those of flow documents.
  §2 Loading — `Catalog.ofFiles`: files in the order of their names, bad ones left out, and of two
               flows with one id the first.
-/
import TaskFlow.Document.Read
import TaskFlow.Text.Cut

namespace TaskFlow

open TaskFlow.Text

/-! ## §1 Files -/

/-- A regular file: its name in its folder, and its text if it can be read. -/
structure SourceFile where
  name : String
  text : Option String

/-- The endings of the names of flow documents. -/
def documentEndings : List String := ["yml", "yaml"]

/-- The ending of a file name: what follows the last point, unless nothing stands before it. -/
def fileEnding? (name : String) : Option String :=
  match cutLast ['.'] name.toList with
  | some (_ :: _, ending) => some (String.ofList ending)
  | _ => none

/-- The name is that of a flow document. -/
def isDocumentName (name : String) : Bool :=
  match fileEnding? name with
  | some ending => decide (ending ∈ documentEndings)
  | none => false

/-! ## §2 Loading -/

/-- How the text of a document becomes a flow. -/
abbrev FlowReader : Type := String → Except DocumentError Flow

namespace SourceFile

/-- The flow in a file. -/
def flow (read : FlowReader) (file : SourceFile) : Except DocumentError Flow :=
  match file.text with
  | some text => read text
  | none => .error .unreadable

/-- The first file stands before the second. -/
def before (a b : SourceFile) : Bool := decide (a.name ≤ b.name)

/-- The flow documents among some files, in the order of their names. -/
def documents (files : List SourceFile) : List SourceFile :=
  (files.filter fun file => isDocumentName file.name).mergeSort before

end SourceFile

namespace Catalog

/-- The catalog with the flow of a file, if it has one with a new id. -/
def addFile (read : FlowReader) (c : Catalog) (file : SourceFile) : Catalog :=
  match file.flow read with
  | .ok f => match c.add f with
    | .ok next => next
    | .error _ => c
  | .error _ => c

/-- The catalog of the flows in a folder. -/
def ofFiles (read : FlowReader) (files : List SourceFile) : Catalog :=
  (SourceFile.documents files).foldl (addFile read) Catalog.empty

end Catalog

end TaskFlow
