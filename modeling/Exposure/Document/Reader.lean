import Exposure.Document.Basic
import Exposure.Json.Shape

/-!
# Reading documents

A document is a JSON record of records. Names, kinds, modules and tags are required, everything
else may be missing: lists are then empty, and parents, targets and payloads absent, which may
also be written `null`.
-/

namespace Exposure

/-- The value of a required field, or its key. -/
def requiredField {α : Type} (key : String) (value : Option α) : Except String α :=
  value.elim (.error key) .ok

/-- A mark that is being read. -/
structure MarkDraft where
  tag : Option String
  payload : Option (Option String)

/-- How marks are read. -/
def markShape : Json.Shape MarkDraft Mark where
  name := "struct RawAnnotation"
  fields :=
    [⟨"tag", (·.tag.isSome), fun draft chars ↦
        (Json.readText chars).map fun (value, rest) ↦ ({ draft with tag := some value }, rest)⟩,
      ⟨"payload", (·.payload.isSome), fun draft chars ↦
        (Json.readOptionalText chars).map fun (value, rest) ↦
          ({ draft with payload := some value }, rest)⟩]
  required := 1
  blank := ⟨none, none⟩
  finish := fun draft ↦
    (requiredField "tag" draft.tag).map fun tag ↦ ⟨tag, draft.payload.join⟩

/-- Reads a list of marks. -/
def readMarks : Json.Reader (List Mark) := Json.readList markShape.read

/-- A module record that is being read. -/
structure ModuleDraft where
  name : Option String
  marks : Option (List Mark)

/-- How module records are read. -/
def moduleShape : Json.Shape ModuleDraft ModuleRecord where
  name := "struct ModuleRecord"
  fields :=
    [⟨"name", (·.name.isSome), fun draft chars ↦
        (Json.readText chars).map fun (value, rest) ↦ ({ draft with name := some value }, rest)⟩,
      ⟨"annotations", (·.marks.isSome), fun draft chars ↦
        (readMarks chars).map fun (value, rest) ↦ ({ draft with marks := some value }, rest)⟩]
  required := 1
  blank := ⟨none, none⟩
  finish := fun draft ↦
    (requiredField "name" draft.name).map fun name ↦ ⟨name, draft.marks.getD []⟩

/-- A declaration record that is being read. -/
structure DeclarationDraft where
  name : Option String
  kind : Option String
  module : Option String
  parent : Option (Option String)
  target : Option (Option String)
  marks : Option (List Mark)

/-- The record of a draft; name, kind and module are required, in this order. -/
def DeclarationDraft.finish (draft : DeclarationDraft) : Except String DeclarationRecord := do
  let name ← requiredField "name" draft.name
  let kind ← requiredField "kind" draft.kind
  let module ← requiredField "module" draft.module
  return ⟨name, kind, module, draft.parent.join, draft.target.join, draft.marks.getD []⟩

/-- How declaration records are read. -/
def declarationShape : Json.Shape DeclarationDraft DeclarationRecord where
  name := "struct DeclarationRecord"
  fields :=
    [⟨"name", (·.name.isSome), fun draft chars ↦
        (Json.readText chars).map fun (value, rest) ↦ ({ draft with name := some value }, rest)⟩,
      ⟨"kind", (·.kind.isSome), fun draft chars ↦
        (Json.readText chars).map fun (value, rest) ↦ ({ draft with kind := some value }, rest)⟩,
      ⟨"module", (·.module.isSome), fun draft chars ↦
        (Json.readText chars).map fun (value, rest) ↦
          ({ draft with module := some value }, rest)⟩,
      ⟨"parent", (·.parent.isSome), fun draft chars ↦
        (Json.readOptionalText chars).map fun (value, rest) ↦
          ({ draft with parent := some value }, rest)⟩,
      ⟨"target", (·.target.isSome), fun draft chars ↦
        (Json.readOptionalText chars).map fun (value, rest) ↦
          ({ draft with target := some value }, rest)⟩,
      ⟨"annotations", (·.marks.isSome), fun draft chars ↦
        (readMarks chars).map fun (value, rest) ↦ ({ draft with marks := some value }, rest)⟩]
  required := 3
  blank := ⟨none, none, none, none, none, none⟩
  finish := DeclarationDraft.finish

/-- A document that is being read. -/
structure DocumentDraft where
  modules : Option (List ModuleRecord)
  declarations : Option (List DeclarationRecord)

/-- How documents are read. -/
def documentShape : Json.Shape DocumentDraft Document where
  name := "struct GraphDocument"
  fields :=
    [⟨"modules", (·.modules.isSome), fun draft chars ↦
        (Json.readList moduleShape.read chars).map fun (value, rest) ↦
          ({ draft with modules := some value }, rest)⟩,
      ⟨"declarations", (·.declarations.isSome), fun draft chars ↦
        (Json.readList declarationShape.read chars).map fun (value, rest) ↦
          ({ draft with declarations := some value }, rest)⟩]
  required := 0
  blank := ⟨none, none⟩
  finish := fun draft ↦ .ok ⟨draft.modules.getD [], draft.declarations.getD []⟩

/-- Reads a document from a text. -/
def Document.read (source : String) : Except Json.Located Document :=
  Json.readWhole documentShape.read source

/-- The collections of the document that a file holds, with the reason of a failure put to the
file's path. -/
def Graph.Indexed.ofSource (path source : String) : Except Graph.Fault Graph.Indexed :=
  match Document.read source with
  | .error fault => .error (.malformedDocument path fault.message)
  | .ok document => document.load

/-- The graph of the document that a file holds. -/
def Graph.ofSource (path source : String) : Except Graph.Fault Graph :=
  (Graph.Indexed.ofSource path source).map (·.graph)

end Exposure
