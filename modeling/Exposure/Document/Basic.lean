import Exposure.Graph.Builder

/-!
# Graph documents

The interchange form in which a front end hands over a run: the modules in run order and the
declarations in source order, everything by name. A document is plain data; whether its
records fit together is decided when a builder loads them (`Document.load`), which stops at the
first fault.
-/

namespace Exposure

/-- A module of a document. -/
structure ModuleRecord where
  name : String
  marks : List Mark
  deriving DecidableEq, Repr

/-- A declaration of a document. -/
structure DeclarationRecord where
  name : String
  /-- The word for the kind, not yet judged. -/
  kind : String
  module : String
  parent : Option String
  target : Option String
  marks : List Mark
  deriving DecidableEq, Repr

/-- A graph document. -/
structure Document where
  modules : List ModuleRecord
  declarations : List DeclarationRecord
  deriving DecidableEq, Repr

namespace Document

open Exposure.Graph (Builder Fault Indexed)

/-- Adds module records. -/
def loadModules : List ModuleRecord → EStateM Fault Builder Unit
  | [] => pure ()
  | record :: rest => do
    let _ ← Builder.addModule record.name record.marks
    loadModules rest

/-- Adds declaration records; the word for the kind is judged first. -/
def loadDeclarations : List DeclarationRecord → EStateM Fault Builder Unit
  | [] => pure ()
  | record :: rest =>
    match Kind.ofText? record.kind with
    | none => throw (.invalidKind record.name record.kind)
    | some kind => do
      let _ ← Builder.addDeclaration
        ⟨record.name, kind, record.module, record.parent, record.target, record.marks⟩
      loadDeclarations rest

/-- Adds all records, those of modules first. -/
def loadAll (document : Document) : EStateM Fault Builder Unit := do
  loadModules document.modules
  loadDeclarations document.declarations

/-- The collections of a document: all modules, then all declarations, then the parents. -/
def load (document : Document) : Except Fault Indexed :=
  match document.loadAll .empty with
  | .error fault _ => .error fault
  | .ok () builder => builder.build

/-- The graph of a document. -/
def toGraph (document : Document) : Except Fault Graph :=
  document.load.map (·.graph)

end Document

end Exposure
