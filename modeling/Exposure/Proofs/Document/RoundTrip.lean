import Exposure.Document.Reader
import Exposure.Document.Writer
import Exposure.Proofs.Json.Written

/-!
# Writing and reading documents

A document that is written and read again is the same document, whatever strings it holds and
whichever of its optional parts are there (`Document.written_reads_back`).

An absent text is left out, so its field is not taken and the draft keeps none of it; an empty text
is written and taken. Thus the two stay apart (`Json.Shape.takes_optionalField`). Lists are always
written and need no such care. The rest follows the shapes of marks, modules, declarations and
documents.
-/

namespace Exposure

open Json (ReadsBack)

/-! ### Fields -/

namespace Json.Shape

variable {δ α β : Type} (shape : Shape δ α) (key : String) {field : Field δ}

/-- **A written field is taken**, if its reader reads back its value. The draft is told from what it
holds of the field. -/
theorem takes_field {reader : Reader β} {written : β → Json} (h : ReadsBack reader written)
    (set : Option β → δ) (known : shape.fields.find? (·.key = key) = some field)
    (new : field.isTaken (set none) = false)
    (taken : ∀ chars, field.take (set none) chars =
      (reader chars).map fun (value, rest) ↦ (set (some value), rest))
    (value : β) : shape.Takes (set none) [(key, written value)] (set (some value)) := by
  refine .cons known new (fun rest ↦ ?_) .nil
  rw [taken, h value]
  rfl

/-- **An optional text is taken just if it is there.** -/
theorem takes_optionalField (set : Option (Option String) → δ)
    (known : shape.fields.find? (·.key = key) = some field)
    (new : field.isTaken (set none) = false)
    (taken : ∀ chars, field.take (set none) chars =
      (readOptionalText chars).map fun (value, rest) ↦ (set (some value), rest))
    (text : Option String) :
    shape.Takes (set none) (optionalField key text) (set (text.map some)) := by
  cases text with
  | none => exact .nil
  | some text =>
    refine .cons known new (fun rest ↦ ?_) .nil
    rw [taken, readOptionalText_written]
    rfl

end Json.Shape

open Json.Shape (takes_field takes_optionalField)

/-! ### Records -/

/-- **Marks are read back.** -/
theorem readsBack_mark : ReadsBack markShape.read Mark.toJson := by
  intro mark rest
  have htag := takes_field markShape "tag" Json.readsBack_readText
    (fun tag ↦ ⟨tag, none⟩) rfl rfl (fun _ ↦ rfl) mark.tag
  have hpayload := takes_optionalField markShape "payload"
    (fun payload ↦ ⟨some mark.tag, payload⟩) rfl rfl (fun _ ↦ rfl) mark.payload
  refine Json.Shape.read_written (htag.append hpayload) ?_ rest
  rcases mark with ⟨tag, - | payload⟩ <;> rfl

/-- Lists of marks are read back. -/
theorem readsBack_marks : ReadsBack readMarks marksJson :=
  Json.readsBack_readList readsBack_mark

/-- **Module records are read back.** -/
theorem readsBack_moduleRecord : ReadsBack moduleShape.read ModuleRecord.toJson := by
  intro record rest
  have hname := takes_field moduleShape "name" Json.readsBack_readText
    (fun name ↦ ⟨name, none⟩) rfl rfl (fun _ ↦ rfl) record.name
  have hmarks := takes_field moduleShape "annotations" readsBack_marks
    (fun marks ↦ ⟨some record.name, marks⟩) rfl rfl (fun _ ↦ rfl) record.marks
  exact Json.Shape.read_written (hname.append hmarks) rfl rest

/-- **Declaration records are read back.** -/
theorem readsBack_declarationRecord :
    ReadsBack declarationShape.read DeclarationRecord.toJson := by
  intro record rest
  have hname := takes_field declarationShape "name" Json.readsBack_readText
    (fun name ↦ ⟨name, none, none, none, none, none⟩) rfl rfl (fun _ ↦ rfl) record.name
  have hkind := takes_field declarationShape "kind" Json.readsBack_readText
    (fun kind ↦ ⟨some record.name, kind, none, none, none, none⟩) rfl rfl (fun _ ↦ rfl)
    record.kind
  have hmodule := takes_field declarationShape "module"
    Json.readsBack_readText
    (fun module ↦ ⟨some record.name, some record.kind, module, none, none, none⟩) rfl rfl
    (fun _ ↦ rfl) record.module
  have hparent := takes_optionalField declarationShape "parent"
    (fun parent ↦ ⟨some record.name, some record.kind, some record.module, parent, none, none⟩)
    rfl rfl (fun _ ↦ rfl) record.parent
  have htarget := takes_optionalField declarationShape "target"
    (fun target ↦ ⟨some record.name, some record.kind, some record.module,
      record.parent.map some, target, none⟩) rfl rfl (fun _ ↦ rfl) record.target
  have hmarks := takes_field declarationShape "annotations" readsBack_marks
    (fun marks ↦ ⟨some record.name, some record.kind, some record.module,
      record.parent.map some, record.target.map some, marks⟩) rfl rfl (fun _ ↦ rfl) record.marks
  have hrequired := hname.append (hkind.append hmodule)
  refine Json.Shape.read_written
    (((hrequired.append hparent).append htarget).append hmarks) ?_ rest
  -- What is absent was not taken, and is absent in the record of the draft.
  rcases record with ⟨name, kind, module, - | parent, - | target, marks⟩ <;> rfl

namespace Document

/-- **Documents are read back.** -/
theorem readsBack_document : ReadsBack documentShape.read toJson := by
  intro document rest
  have hmodules := takes_field documentShape "modules"
    (Json.readsBack_readList readsBack_moduleRecord) (fun modules ↦ ⟨modules, none⟩) rfl rfl
    (fun _ ↦ rfl) document.modules
  have hdeclarations := takes_field documentShape "declarations"
    (Json.readsBack_readList readsBack_declarationRecord)
    (fun declarations ↦ ⟨some document.modules, declarations⟩) rfl rfl (fun _ ↦ rfl)
    document.declarations
  exact Json.Shape.read_written (hmodules.append hdeclarations) rfl rest

/-- **A written document is read back**: reading its compact JSON succeeds and gives the same
document, so that the graph of the file that holds it, or the fault of that graph, is the one of the
document. -/
theorem written_reads_back (document : Document) :
    Document.read document.toJson.compact = .ok document ∧
      ∀ path, Graph.ofSource path document.toJson.compact = document.toGraph := by
  have hread : Document.read document.toJson.compact = .ok document :=
    readsBack_document.readWhole document
  refine ⟨hread, fun path ↦ ?_⟩
  rw [Graph.ofSource, Graph.Indexed.ofSource, hread]
  rfl

end Document
end Exposure
