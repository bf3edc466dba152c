import Exposure.Annotation.Reading
import Exposure.Graph.Basic
import Exposure.Keyed

/-!
# Extraction over a graph

Every declaration and every module of a run has its marks read once. What reads goes into a
**store** of annotations, what does not leaves its problems under the same identity, so each
identity ends up on exactly one side.

Items may be taken in any order: an item writes under its own identity only, and everything
later reads by identity.
-/

namespace Exposure

/-- Annotations by the identity of their owner. -/
structure AnnotationStore where
  declarations : Keyed DeclId Annotations
  modules : Keyed ModuleId Annotations

namespace AnnotationStore

/-- The store without annotations. -/
def empty : AnnotationStore := ⟨.empty, .empty⟩

/-- Keeps the annotations of a declaration. -/
def insert (store : AnnotationStore) (id : DeclId) (annotations : Annotations) :
    AnnotationStore :=
  { store with declarations := store.declarations.insert id annotations }

/-- Keeps the annotations of a module scope. -/
def insertModule (store : AnnotationStore) (id : ModuleId) (annotations : Annotations) :
    AnnotationStore :=
  { store with modules := store.modules.insert id annotations }

/-- The annotations of a declaration, if they were kept. -/
def get? (store : AnnotationStore) (id : DeclId) : Option Annotations :=
  store.declarations.get? id

/-- The annotations of a module scope, if they were kept. -/
def getModule? (store : AnnotationStore) (id : ModuleId) : Option Annotations :=
  store.modules.get? id

/-- The number of declarations with annotations. -/
def declarationCount (store : AnnotationStore) : Nat := store.declarations.size

end AnnotationStore

/-- The annotations of a declaration, or every problem among its marks. -/
def Declaration.annotations (declaration : Declaration) : Except (List Problem) Annotations :=
  Annotations.read declaration.name (.declaration declaration.kind) declaration.marks

/-- The annotations of a module scope, or every problem among its marks. -/
def Module.annotations (module : Module) : Except (List Problem) Annotations :=
  Annotations.read module.name .moduleScope module.marks

/-- What reading the marks of a run has given. -/
structure Extraction where
  store : AnnotationStore
  declarationProblems : Keyed DeclId (List Problem)
  moduleProblems : Keyed ModuleId (List Problem)

namespace Extraction

/-- Before anything was read. -/
def empty : Extraction := ⟨.empty, .empty, .empty⟩

/-- Reads the marks of one declaration. -/
def addDeclaration (extraction : Extraction) (declaration : Declaration) : Extraction :=
  match declaration.annotations with
  | .ok annotations =>
    { extraction with store := extraction.store.insert declaration.id annotations }
  | .error problems =>
    { extraction with
      declarationProblems := extraction.declarationProblems.insert declaration.id problems }

/-- Reads the marks of one module scope. -/
def addModule (extraction : Extraction) (module : Module) : Extraction :=
  match module.annotations with
  | .ok annotations =>
    { extraction with store := extraction.store.insertModule module.id annotations }
  | .error problems =>
    { extraction with moduleProblems := extraction.moduleProblems.insert module.id problems }

/-- Reads the marks of declarations and modules, each list in the order given. -/
def process (declarations : List Declaration) (modules : List Module) : Extraction :=
  modules.foldl addModule (declarations.foldl addDeclaration empty)

/-- Reads all marks of a graph. -/
def ofGraph (graph : Graph) : Extraction := process graph.declarations graph.modules

/-- The number of problems found. -/
def problemCount (extraction : Extraction) : Nat :=
  (extraction.declarationProblems.entries.flatMap (·.2)).length +
    (extraction.moduleProblems.entries.flatMap (·.2)).length

end Extraction

end Exposure
