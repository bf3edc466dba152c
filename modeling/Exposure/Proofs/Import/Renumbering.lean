import Exposure.Import.Ledger
import Exposure.Proofs.Graph.Renumbering

/-!
# Ledgers of renumbered graphs

Records name declarations where they say through which alias something is bound or moved, and what
is moved. Settling a ledger compares modules and names of modules, but not these numbers: it only
hands them on. So a renumbered ledger settles into the same settlement renumbered, with the same
problems and warnings (`Ledger.settle_renumber`).
-/

namespace Exposure.Import

/-- An origin with its alias renumbered. -/
def Origin.renumber (ρ : DeclId → DeclId) : Origin → Origin
  | explicit => explicit
  | inferred via => inferred (ρ via)

/-- An entry of an import list with its alias renumbered. -/
def Entry.renumber (ρ : DeclId → DeclId) (entry : Entry) : Entry :=
  { entry with origin := entry.origin.renumber ρ }

/-- A relocation with its declarations renumbered. -/
def Relocation.renumber (ρ : DeclId → DeclId) (relocation : Relocation) : Relocation :=
  { relocation with declaration := ρ relocation.declaration, via := ρ relocation.via }

/-- A record with its declarations renumbered. -/
def Record.renumber (ρ : DeclId → DeclId) : Record → Record
  | request module target => request module target
  | reference module emittedIn via => reference module emittedIn (ρ via)
  | manual module block => manual module block
  | relocation moved => relocation (moved.renumber ρ)

/-- The imports of a module with their aliases renumbered. -/
def ModuleImports.renumber (ρ : DeclId → DeclId) (module : ModuleImports) : ModuleImports :=
  { module with imports := module.imports.map (·.renumber ρ) }

/-- A settlement with its declarations renumbered. -/
def Settlement.renumber (ρ : DeclId → DeclId) (settlement : Settlement) : Settlement :=
  { settlement with
    modules := settlement.modules.map (·.renumber ρ)
    relocations := settlement.relocations.map (·.renumber ρ) }

namespace Ledger

/-- A ledger with its declarations renumbered. -/
def renumber (ρ : DeclId → DeclId) (ledger : Ledger) : Ledger := ledger.map (·.renumber ρ)

variable (ρ : DeclId → DeclId) (ledger : Ledger)

theorem renumber_append (other : Ledger) :
    (ledger ++ other : Ledger).renumber ρ = ledger.renumber ρ ++ other.renumber ρ :=
  List.map_append

/-! ### What was written down -/

@[simp]
theorem requested_renumber (module : ModuleId) :
    (ledger.renumber ρ).requested module = ledger.requested module := by
  rw [requested, requested, renumber, List.filterMap_map]
  exact List.filterMap_congr fun record _ ↦ by cases record <;> rfl

@[simp]
theorem referenced_renumber (module : ModuleId) :
    (ledger.renumber ρ).referenced module = (ledger.referenced module).map (Prod.map id ρ) := by
  rw [referenced, referenced, renumber, List.filterMap_map, List.map_filterMap]
  refine List.filterMap_congr fun record _ ↦ ?_
  cases record with
  | reference owner emittedIn via =>
    show (if owner = module ∧ emittedIn ≠ module then some (emittedIn, ρ via) else none) =
      Option.map (Prod.map id ρ)
        (if owner = module ∧ emittedIn ≠ module then some (emittedIn, via) else none)
    split <;> rfl
  | _ => rfl

@[simp]
theorem manualBlocks_renumber (module : ModuleId) :
    (ledger.renumber ρ).manualBlocks module = ledger.manualBlocks module := by
  rw [manualBlocks, manualBlocks, renumber, List.filterMap_map]
  exact List.filterMap_congr fun record _ ↦ by cases record <;> rfl

@[simp]
theorem relocations_renumber :
    (ledger.renumber ρ).relocations = ledger.relocations.map (·.renumber ρ) := by
  rw [relocations, relocations, renumber, List.filterMap_map, List.map_filterMap]
  exact List.filterMap_congr fun record _ ↦ by cases record <;> rfl

/-! ### What it comes to -/

/-- References are taken up at the same places, through the same aliases. -/
theorem addReferences_map (listed : List ModuleId) (references : List (ModuleId × DeclId)) :
    addReferences listed (references.map (Prod.map id ρ)) =
      (addReferences listed references).map (·.renumber ρ) := by
  induction references generalizing listed with
  | nil => rfl
  | cons reference rest ih =>
    obtain ⟨module, via⟩ := reference
    rw [List.map_cons, Prod.map_apply, id, addReferences, addReferences]
    split
    · exact ih listed
    · rw [ih, List.map_cons]
      rfl

variable {ρ} {graph graph' : Graph} (h : Graph.Renumbered ρ graph graph')
include h

theorem requestedModules_renumber (module : Module) :
    requestedModules graph' (ledger.renumber ρ) module = requestedModules graph ledger module := by
  rw [requestedModules, requestedModules, requested_renumber, funext h.moduleNamed_eq]

/-- **The import list of a module has the same modules**, through the same aliases. -/
theorem importList_renumber (module : Module) :
    importList graph' (ledger.renumber ρ) module =
      (importList graph ledger module).map (·.renumber ρ) := by
  rw [importList, importList, requestedModules_renumber ledger h, referenced_renumber,
    addReferences_map, List.map_append, List.map_map]
  rfl

/-- **A renumbered ledger settles into the settlement renumbered.** -/
theorem settle_renumber :
    settle graph' (ledger.renumber ρ) = (settle graph ledger).renumber ρ := by
  have hlists : graph'.modules.map (fun module ↦
      (⟨importList graph' (ledger.renumber ρ) module,
        (ledger.renumber ρ).manualBlocks module.id⟩ : ModuleImports)) =
      (graph.modules.map fun module ↦
        (⟨importList graph ledger module, ledger.manualBlocks module.id⟩ : ModuleImports)).map
          (·.renumber ρ) := by
    rw [h.modules, List.map_map]
    refine List.map_congr_left fun module _ ↦ ?_
    rw [importList_renumber ledger h, manualBlocks_renumber]
    rfl
  have hproblems (module : Module) :
      danglingImports graph' (ledger.renumber ρ) module ++
        missingImports graph' (ledger.renumber ρ) module =
      danglingImports graph ledger module ++ missingImports graph ledger module := by
    simp only [danglingImports, missingImports, requested_renumber, manualBlocks_renumber,
      h.containsModule_eq]
  have hself : selfImports graph' (ledger.renumber ρ) = selfImports graph ledger := by
    funext module
    simp only [selfImports, requested_renumber, h.moduleNamed_eq]
  -- Cycles are looked for among the modules of the lists, which are the same.
  have hedges (lists : List ModuleImports) :
      (lists.map (·.renumber ρ)).map (fun module ↦ module.imports.map (·.module)) =
        lists.map fun module ↦ module.imports.map (·.module) := by
    rw [List.map_map]
    exact List.map_congr_left fun module _ ↦ List.map_map
  unfold settle
  dsimp only
  rw [hlists, hedges, relocations_renumber, h.modules, hself, funext hproblems,
    funext h.moduleName_eq]
  rfl

end Ledger
end Exposure.Import
