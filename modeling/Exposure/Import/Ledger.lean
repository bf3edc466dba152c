import Exposure.Graph.Basic
import Exposure.Import.Call
import Exposure.Import.Cycle
import Exposure.Problem
import Exposure.Warning

/-!
# The import ledger

While a run is planned, four things are written down about its modules: imports that
annotations ask for, references of a module to what another one emits, blocks of hand-written
code, and relocations. `Ledger.settle` turns the records into the import list of every module
and judges them.

A module's list holds first the modules it asks for, then those it refers to, each at its
first record and never the module itself. Hand-written code adds nothing: it is only checked
that every module of the run it calls for is asked for by the same module. Modules outside
the run are not checked. A relocation adds no import either.
-/

namespace Exposure.Import

/-- Why a module imports another. -/
inductive Origin where
  /-- An annotation asks for it. -/
  | explicit
  /-- An alias of the importer binds what the other emits. -/
  | inferred (via : DeclId)
  deriving DecidableEq, Repr

/-- An entry of an import list. -/
structure Entry where
  module : ModuleId
  origin : Origin
  deriving DecidableEq, Repr

/-- A block of hand-written code. -/
structure ManualBlock where
  /-- The declaration or module it is attached to. -/
  owner : String
  code : String
  /-- The modules it calls for. -/
  references : List String
  deriving DecidableEq, Repr

/-- The block with a code, which says what it refers to. -/
def ManualBlock.ofCode (owner code : String) : ManualBlock :=
  ⟨owner, code, calledModules code⟩

/-- A declaration that is emitted outside its home module. -/
structure Relocation where
  declaration : DeclId
  home : ModuleId
  site : ModuleId
  /-- The alias that asks for it. -/
  via : DeclId
  deriving DecidableEq, Repr

/-- One thing written down. -/
inductive Record where
  /-- `module` asks for the module called `target`. -/
  | request (module : ModuleId) (target : String)
  /-- `module` binds, through the alias `via`, what `emittedIn` emits. -/
  | reference (module emittedIn : ModuleId) (via : DeclId)
  /-- `module` holds hand-written code. -/
  | manual (module : ModuleId) (block : ManualBlock)
  | relocation (relocation : Relocation)
  deriving DecidableEq, Repr

/-- The imports and the hand-written code of one module. -/
structure ModuleImports where
  imports : List Entry
  manualBlocks : List ManualBlock
  deriving DecidableEq, Repr

/-- What a ledger comes to. -/
structure Settlement where
  /-- The modules in run order. -/
  modules : List ModuleImports
  relocations : List Relocation
  problems : List Problem
  warnings : List Warning
  deriving DecidableEq, Repr

/-- The records of a run, in the order of writing. -/
abbrev Ledger := List Record

namespace Ledger

/-- The names that a module asks for. -/
def requested (ledger : Ledger) (module : ModuleId) : List String :=
  ledger.filterMap fun
    | .request owner target => if owner = module then some target else none
    | _ => none

/-- The modules that a module refers to, with the alias of each reference. References of a
module to itself count for nothing. -/
def referenced (ledger : Ledger) (module : ModuleId) : List (ModuleId × DeclId) :=
  ledger.filterMap fun
    | .reference owner emittedIn via =>
      if owner = module ∧ emittedIn ≠ module then some (emittedIn, via) else none
    | _ => none

/-- The hand-written code of a module. -/
def manualBlocks (ledger : Ledger) (module : ModuleId) : List ManualBlock :=
  ledger.filterMap fun
    | .manual owner block => if owner = module then some block else none
    | _ => none

/-- The relocations, as recorded. -/
def relocations (ledger : Ledger) : List Relocation :=
  ledger.filterMap fun
    | .relocation relocation => some relocation
    | _ => none

/-- The modules of the run that a module asks for, other than itself. -/
def requestedModules (graph : Graph) (ledger : Ledger) (module : Module) : List ModuleId :=
  (((ledger.requested module.id).filterMap graph.moduleNamed).map (·.id)).filter
    (· ≠ module.id) |>.eraseDups

/-- Takes up references to modules that are not listed yet. -/
def addReferences (listed : List ModuleId) : List (ModuleId × DeclId) → List Entry
  | [] => []
  | (module, via) :: rest =>
    if module ∈ listed then addReferences listed rest
    else ⟨module, .inferred via⟩ :: addReferences (module :: listed) rest

/-- The import list of a module. -/
def importList (graph : Graph) (ledger : Ledger) (module : Module) : List Entry :=
  let asked := requestedModules graph ledger module
  asked.map (⟨·, .explicit⟩) ++ addReferences asked (ledger.referenced module.id)

/-- The imports a module asks for in vain, each name once. -/
def danglingImports (graph : Graph) (ledger : Ledger) (module : Module) : List Problem :=
  ((ledger.requested module.id).filter fun target ↦ !graph.containsModule target).eraseDups.map
    (.danglingImport module.name)

/-- The modules of the run that hand-written code of a module calls for although the module
does not ask for them, each name once. -/
def missingImports (graph : Graph) (ledger : Ledger) (module : Module) : List Problem :=
  (((ledger.manualBlocks module.id).flatMap (·.references)).filter fun called ↦
      called ≠ module.name && !(ledger.requested module.id).contains called &&
        graph.containsModule called).eraseDups.map
    (.missingImportDeclaration module.name)

/-- A warning for a module that asks for itself. -/
def selfImports (graph : Graph) (ledger : Ledger) (module : Module) : List Warning :=
  if (ledger.requested module.id).any fun target ↦
      (graph.moduleNamed target).any (·.id = module.id) then
    [.selfImport module.name]
  else []

/-- Judges a ledger: module by module, and then the cycles among the import lists. -/
def settle (graph : Graph) (ledger : Ledger) : Settlement :=
  let modules := graph.modules.map fun module ↦
    (⟨importList graph ledger module, ledger.manualBlocks module.id⟩ : ModuleImports)
  let cycles := cycles (modules.map fun module ↦ module.imports.map (·.module))
  { modules
    relocations := ledger.relocations
    problems := graph.modules.flatMap fun module ↦
      danglingImports graph ledger module ++ missingImports graph ledger module
    warnings := graph.modules.flatMap (selfImports graph ledger) ++
      cycles.map fun cycle ↦ .importCycle (cycle.map graph.moduleName) }

end Ledger

end Exposure.Import
