import Exposure.Document.Basic

/-!
# Writing documents

A document is written as compact JSON with every field in declaration order. Absent parents,
targets and payloads are left out; lists are written even when they are empty.
-/

namespace Exposure

/-- An optional text field, left out where there is no text. -/
def optionalField (key : String) (text : Option String) : List (String × Json) :=
  (text.map fun text ↦ (key, Json.str text)).toList

/-- A list of marks. -/
def marksJson (marks : List Mark) : Json := .arr (marks.map Mark.toJson)

/-- The written form of a module record. -/
def ModuleRecord.toJson (record : ModuleRecord) : Json :=
  .obj [("name", .str record.name), ("annotations", marksJson record.marks)]

/-- The written form of a declaration record. -/
def DeclarationRecord.toJson (record : DeclarationRecord) : Json :=
  .obj ([("name", .str record.name), ("kind", .str record.kind),
      ("module", .str record.module)] ++
    optionalField "parent" record.parent ++ optionalField "target" record.target ++
    [("annotations", marksJson record.marks)])

namespace Document

/-- The document as JSON. -/
def toJson (document : Document) : Json :=
  .obj [("modules", .arr (document.modules.map ModuleRecord.toJson)),
    ("declarations", .arr (document.declarations.map DeclarationRecord.toJson))]

/-- The document as text. -/
def write (document : Document) : String := document.toJson.compact

end Document

end Exposure
