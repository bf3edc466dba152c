import Exposure.Document.Basic
import Exposure.Proofs.Graph.Builders

/-!
# Graphs of documents

A document is read by a history of additions, so the graph of a document is built
(`Document.built_of_toGraph`), and whatever is proved of built graphs holds of it.

`Document.sample` is a small document for the cases that go with general results: a library with a
point and a secret, an interface that moves the point to itself under another name, and tools that
bind it a second time.
-/

namespace Exposure.Document

open Exposure.Graph (Builder Draft Fault Indexed)

/-! ### Drafts of documents -/

/-- Adds module records to a draft. -/
def addModules (draft : Draft) : List ModuleRecord → Except Fault Draft
  | [] => .ok draft
  | record :: rest =>
    match draft.addModule record.name record.marks with
    | .error fault => .error fault
    | .ok (draft, _) => addModules draft rest

/-- Adds declaration records to a draft; the word for the kind is judged first. -/
def addDeclarations (draft : Draft) : List DeclarationRecord → Except Fault Draft
  | [] => .ok draft
  | record :: rest =>
    match Kind.ofText? record.kind with
    | none => .error (.invalidKind record.name record.kind)
    | some kind =>
      match draft.addDeclaration
        ⟨record.name, kind, record.module, record.parent, record.target, record.marks⟩ with
      | .error fault => .error fault
      | .ok (draft, _) => addDeclarations draft rest

/-- The draft of a document: all modules, then all declarations. -/
def drafted (document : Document) : Except Fault Draft :=
  match addModules .empty document.modules with
  | .error fault => .error fault
  | .ok draft => addDeclarations draft document.declarations

/-- What comes of loading records into a builder: the fault that comes of adding them to a draft, or
a builder that agrees with the draft. -/
def LoadedAs (result : EStateM.Result Fault Builder Unit) : Except Fault Draft → Prop
  | .error fault => ∃ after, result = .error fault after
  | .ok draft => ∃ after, result = .ok () after ∧ after.Agrees draft

theorem loadedAs_modules {builder : Builder} {draft : Draft} (h : builder.Agrees draft)
    (records : List ModuleRecord) :
    LoadedAs (loadModules records builder) (addModules draft records) := by
  induction records generalizing builder draft with
  | nil => exact ⟨builder, rfl, h⟩
  | cons record rest ih =>
    have hfirst := h.addModule record.name record.marks
    rw [addModules]
    show LoadedAs (EStateM.bind (Builder.addModule record.name record.marks)
      (fun _ ↦ loadModules rest) builder) _
    rw [EStateM.bind]
    generalize Builder.addModule record.name record.marks builder = result at hfirst ⊢
    generalize draft.addModule record.name record.marks = outcome at hfirst ⊢
    cases hfirst with
    | accepted hagrees => exact ih hagrees
    | rejected => exact ⟨builder, rfl⟩

theorem loadedAs_declarations {builder : Builder} {draft : Draft} (h : builder.Agrees draft)
    (records : List DeclarationRecord) :
    LoadedAs (loadDeclarations records builder) (addDeclarations draft records) := by
  induction records generalizing builder draft with
  | nil => exact ⟨builder, rfl, h⟩
  | cons record rest ih =>
    rw [addDeclarations, loadDeclarations]
    rcases Kind.ofText? record.kind with - | kind
    · exact ⟨builder, rfl⟩
    · have hfirst := h.addDeclaration
        ⟨record.name, kind, record.module, record.parent, record.target, record.marks⟩
      show LoadedAs (EStateM.bind (Builder.addDeclaration _) (fun _ ↦ loadDeclarations rest)
        builder) _
      rw [EStateM.bind]
      dsimp only
      generalize Builder.addDeclaration _ builder = result at hfirst ⊢
      generalize draft.addDeclaration _ = outcome at hfirst ⊢
      cases hfirst with
      | accepted hagrees => exact ih hagrees
      | rejected => exact ⟨builder, rfl⟩

/-- All records of a document are loaded as they are added to a draft. -/
theorem loadedAs_all (document : Document) :
    LoadedAs (document.loadAll .empty) document.drafted := by
  have hmodules := loadedAs_modules Builder.agrees_empty document.modules
  rw [drafted]
  show LoadedAs (EStateM.bind (loadModules document.modules)
    (fun _ ↦ loadDeclarations document.declarations) _) _
  rw [EStateM.bind]
  rcases hadd : addModules .empty document.modules with fault | draft
  · rw [hadd, LoadedAs] at hmodules
    obtain ⟨after, hafter⟩ := hmodules
    rw [hafter]
    exact ⟨after, rfl⟩
  · rw [hadd, LoadedAs] at hmodules
    obtain ⟨after, hafter, hagrees⟩ := hmodules
    rw [hafter]
    exact loadedAs_declarations hagrees document.declarations

/-- **A document is built as its draft is**, and the collections that it is loaded into agree. -/
theorem load_drafted (document : Document) :
    document.toGraph = document.drafted.bind Draft.build ∧
      ∀ indexed, document.load = .ok indexed → indexed.Consistent := by
  have hloaded := loadedAs_all document
  rw [toGraph, load]
  rcases hdraft : document.drafted with fault | draft
  · rw [hdraft, LoadedAs] at hloaded
    obtain ⟨after, hafter⟩ := hloaded
    rw [hafter]
    exact ⟨rfl, fun _ h ↦ nomatch h⟩
  · rw [hdraft, LoadedAs] at hloaded
    obtain ⟨after, hafter, hagrees⟩ := hloaded
    rw [hafter]
    exact ⟨hagrees.build, fun _ ↦ hagrees.consistent_of_build⟩

/-- The graph of a document, by way of its draft. -/
theorem toGraph_eq (document : Document) :
    document.toGraph =
      match addModules .empty document.modules with
      | .error fault => .error fault
      | .ok draft =>
        match addDeclarations draft document.declarations with
        | .error fault => .error fault
        | .ok draft => draft.build := by
  rw [(load_drafted document).1, drafted]
  rcases addModules .empty document.modules with fault | modules
  · rfl
  · dsimp only
    rcases addDeclarations modules document.declarations with fault | draft <;> rfl

/-- **What a graph of a document is asked for is read from its collections**: they are those of the
graph, and they agree. -/
theorem exists_load_of_toGraph {document : Document} {graph : Graph}
    (h : document.toGraph = .ok graph) :
    ∃ indexed, document.load = .ok indexed ∧ indexed.graph = graph ∧ indexed.Consistent := by
  rw [toGraph] at h
  rcases hload : document.load with fault | indexed
  · rw [hload] at h
    cases h
  · rw [hload] at h
    exact ⟨indexed, rfl, Except.ok.inj h, (load_drafted document).2 indexed hload⟩

/-! ### Histories of documents -/

/-- Adding module records is a history. -/
theorem reached_of_addModules {draft next : Draft} {records : List ModuleRecord}
    (hdraft : draft.Reached) (h : addModules draft records = .ok next) : next.Reached := by
  induction records generalizing draft with
  | nil =>
    cases h
    exact hdraft
  | cons record rest ih =>
    rw [addModules] at h
    split at h
    · cases h
    · rename_i added id haccepted
      exact ih (hdraft.addModule haccepted) h

/-- Adding declaration records is a history. -/
theorem reached_of_addDeclarations {draft next : Draft} {records : List DeclarationRecord}
    (hdraft : draft.Reached) (h : addDeclarations draft records = .ok next) : next.Reached := by
  induction records generalizing draft with
  | nil =>
    cases h
    exact hdraft
  | cons record rest ih =>
    rw [addDeclarations] at h
    split at h
    · cases h
    · rename_i kind hkind
      split at h
      · cases h
      · rename_i added id haccepted
        exact ih (hdraft.addDeclaration haccepted) h

/-- **The graph of a document is built.** -/
theorem built_of_toGraph {document : Document} {graph : Graph} (h : document.toGraph = .ok graph) :
    graph.Built := by
  rw [toGraph_eq] at h
  split at h
  · cases h
  · rename_i modules hmodules
    split at h
    · cases h
    · rename_i draft hdraft
      have hreached := reached_of_addModules .empty hmodules
      exact ⟨draft, reached_of_addDeclarations hreached hdraft, h⟩

/-- A small document with an exposed point, a hidden secret and two aliases of the point. -/
def sample : Document where
  modules := [⟨"core", []⟩, ⟨"api", [⟨"import", some "core"⟩]⟩, ⟨"tools", []⟩]
  declarations :=
    [⟨"lib", "namespace", "core", none, none, [⟨"visible", none⟩]⟩,
     ⟨"lib::Point", "struct", "core", some "lib", none, []⟩,
     ⟨"lib::secret", "function", "core", some "lib", none, [⟨"hidden", none⟩]⟩,
     ⟨"api::Spot", "alias", "api", none, some "lib::Point",
       [⟨"visible", none⟩, ⟨"expose_here", none⟩]⟩,
     ⟨"tools::Dot", "alias", "tools", none, some "api::Spot", [⟨"visible", none⟩]⟩]

/-- The graph of the sample. -/
def sampleGraph : Graph where
  modules := [⟨⟨1⟩, "core", []⟩, ⟨⟨2⟩, "api", [⟨"import", some "core"⟩]⟩, ⟨⟨3⟩, "tools", []⟩]
  declarations :=
    [⟨⟨1⟩, "lib", .scope, ⟨1⟩, none, none, [⟨"visible", none⟩]⟩,
     ⟨⟨2⟩, "lib::Point", .record, ⟨1⟩, some ⟨1⟩, none, []⟩,
     ⟨⟨3⟩, "lib::secret", .function, ⟨1⟩, some ⟨1⟩, none, [⟨"hidden", none⟩]⟩,
     ⟨⟨4⟩, "api::Spot", .typeAlias, ⟨2⟩, none, some "lib::Point",
       [⟨"visible", none⟩, ⟨"expose_here", none⟩]⟩,
     ⟨⟨5⟩, "tools::Dot", .typeAlias, ⟨3⟩, none, some "api::Spot", [⟨"visible", none⟩]⟩]

theorem sampleGraph_built : sampleGraph.Built :=
  built_of_toGraph (show sample.toGraph = .ok sampleGraph from rfl)

end Exposure.Document
