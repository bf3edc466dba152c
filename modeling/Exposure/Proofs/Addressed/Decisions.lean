import Exposure.Proofs.Addressed.Cycles
import Exposure.Proofs.Addressed.Ranges
import Exposure.Proofs.Plan.ImportCycles

/-!
# Decisions by identities

Slots are decided, and the ledger is settled, on identities alone: the target of a slot is gone to
by identity, the sites that contradict each other are named by identity, every record is written to
a ledger that has to be there, and the modules are numbered anew to be settled one by one.

What the visits have gathered is in range, so **no access of these is out of range**: the survey of
a run is decided as `Plan.ofSurvey` decides it, whether that comes to a plan or to problems
(`Run.Addressable.ofSurvey`).
-/

namespace Exposure

namespace Addressed

/-! ### Deciding -/

namespace Slot

/-- A slot with its target at hand. -/
def opened (slot : Slot) (target : Declaration) : Exposure.Slot :=
  ⟨target, slot.direct, slot.hidden, slot.requests⟩

/-- Decides a slot. -/
def verdict (graph : Graph) (slot : Slot) : Option Verdict := do
  let target ← graph.fetch? slot.target
  if slot.hidden then
    return .hidden ((slot.requests.filter (·.isExplicit)).map fun request ↦
      .aliasToHidden request.qualifiedName target.name)
  else match Alias.chooseName target.name target.shortName slot.direct slot.requests with
    | .error problem => return .rejected problem
    | .ok none => return .nameless
    | .ok (some choice) =>
      match (slot.opened target).sites with
      | first :: second :: rest => do
        let names ← (first :: second :: rest).mapM fun (site, _) ↦ graph.fetchModuleName? site
        return .rejected (.duplicateEmission target.name names)
      | sites =>
        let relocation := sites.head?.filter fun (site, _) ↦ site ≠ target.module
        return (slot.opened target).emit choice relocation

end Slot

/-- The modules of a graph, each found by its number. -/
def owners (graph : Graph) : Option (List Module) := do
  let ids ← (List.range graph.modules.length).mapM ModuleId.ofPosition?
  ids.mapM fun id ↦ do return { ← graph.fetchModule? id with id }

/-- Judges a ledger: module by module, and then the cycles among the import lists, which are told by
name. -/
def settle (graph : Graph) (ledger : Import.Ledger) : Option Import.Settlement := do
  let owners ← owners graph
  let modules := owners.map fun module ↦
    (⟨ledger.importList graph module, ledger.manualBlocks module.id⟩ : Import.ModuleImports)
  let found ← cycles (modules.map fun module ↦ module.imports.map (·.module))
  let named ← found.mapM (·.mapM graph.fetchModuleName?)
  return {
    modules
    relocations := ledger.relocations
    problems := owners.flatMap fun module ↦
      ledger.danglingImports graph module ++ ledger.missingImports graph module
    warnings := owners.flatMap (ledger.selfImports graph) ++ named.map .importCycle }

/-- The plan that a survey comes to, or all problems of the run. -/
def ofSurvey (graph : Graph) (survey : Survey) : Option (Except (List Problem) Plan) := do
  let verdicts ← survey.slots.mapM (·.verdict graph)
  let ledger ← (verdicts.flatMap (·.records)).foldlM (write graph) survey.ledger
  let settlement ← settle graph ledger
  match survey.problems ++ verdicts.filterMap (·.problem?) ++ settlement.problems with
  | [] =>
    return .ok {
      entries := verdicts.filterMap (·.planned?)
      aliasTargets := survey.aliasTargets
      modules := graph.modules.zipWith
        (fun module imports ↦ ⟨module.id, module.name, imports.imports, imports.manualBlocks⟩)
        settlement.modules
      relocations := settlement.relocations
      warnings := verdicts.flatMap (·.warnings) ++ settlement.warnings }
  | problems => return .error problems

/-! ### Its accesses -/

variable {graph : Graph} (hgraph : graph.WellFormed) (hfits : graph.FitsWords)
include hgraph hfits

/-- **No access of a verdict is out of range**, if the slot is in range. -/
theorem verdict_eq {slot : Exposure.Slot} (hslot : slot.InRange graph) :
    slot.addressed.verdict graph = some (slot.verdict graph) := by
  have hfetch : graph.fetch? slot.addressed.target = some slot.target :=
    hfits.fetch?_of_mem hgraph hslot.target
  have hopened : slot.addressed.opened slot.target = slot := rfl
  rw [Slot.verdict, Exposure.Slot.verdict, hfetch, Option.bind_eq_bind, Option.bind_some, hopened]
  change (if slot.hidden = true then _ else _) = _
  split
  · rfl
  · change (match Alias.chooseName slot.target.name slot.target.shortName slot.direct
      slot.requests with | .error _ => _ | .ok none => _ | .ok (some _) => _) = _
    rcases Alias.chooseName slot.target.name slot.target.shortName slot.direct slot.requests with
      problem | - | choice
    · rfl
    · rfl
    · dsimp only
      have hnames : slot.sites.mapM (fun (site, _) ↦ graph.fetchModuleName? site) =
          some (slot.sites.map fun (site, _) ↦ graph.moduleName site) :=
        mapM_eq_some fun site hsite ↦ hfits.fetchModuleName?_eq (hslot.of_mem_sites hsite).1
      rcases hsites : slot.sites with - | ⟨first, - | ⟨second, rest⟩⟩
      · rfl
      · rfl
      · rw [hsites] at hnames
        dsimp only
        rw [hnames]
        rfl

/-- The modules are found by their numbers. -/
theorem owners_eq : owners graph = some graph.modules := by
  have hsize := hfits.modules
  have hids : (List.range graph.modules.length).mapM ModuleId.ofPosition? =
      some (graph.modules.map (·.id)) := by
    rw [hgraph.module_ids]
    refine mapM_eq_some fun position hposition ↦ ?_
    have hlt : position < graph.modules.length := List.mem_range.1 hposition
    rw [ModuleId.ofPosition?, number?_eq (by omega)]
    rfl
  rw [owners, hids, Option.bind_eq_bind, Option.bind_some, List.mapM_map]
  refine (mapM_eq_some fun module hmodule ↦ ?_).trans (congrArg some (List.map_id _))
  have hfound := hfits.fetchModule?_of_module? (hgraph.module?_eq_some.2 ⟨hmodule, rfl⟩)
  rw [Function.comp_apply, hfound]
  rfl

omit hfits in
/-- The import lists of a ledger in range are of modules in range. -/
theorem table_subset {ledger : Import.Ledger} (hledger : ∀ record ∈ ledger, record.InRange graph) :
    ∀ row ∈ ledger.table graph, row ⊆ Import.nodes (ledger.table graph) := by
  intro row hrow id hid
  obtain ⟨module, -, rfl⟩ := List.mem_map.1 hrow
  obtain ⟨entry, hentry, rfl⟩ := List.mem_map.1 hid
  rw [Import.mem_nodes, Import.Ledger.table, List.length_map]
  exact (Import.Ledger.inRange_importList hgraph hledger entry hentry).module

omit hgraph hfits in
/-- The members of a cycle of imports are in range. -/
theorem inRange_of_mem_cycles {ledger : Import.Ledger}
    (hrows : ∀ row ∈ ledger.table graph, row ⊆ Import.nodes (ledger.table graph))
    {cycle : List ModuleId} (hcycle : cycle ∈ Import.cycles (ledger.table graph)) :
    ∀ id ∈ cycle, id.InRange graph := by
  intro id hid
  have hclosed : Import.Closed (ledger.table graph) :=
    Import.closed_of_forall_mem fun row hrow module hmodule ↦
      Import.mem_nodes.1 (hrows row hrow hmodule)
  have hnode := Import.mem_nodes.1 ((Import.of_mem_cycles hclosed hcycle).2.1 id hid)
  rwa [Import.Ledger.table, List.length_map] at hnode

/-- **No access of the settlement is out of range**, if the records are in range. -/
theorem settle_eq {ledger : Import.Ledger} (hledger : ∀ record ∈ ledger, record.InRange graph) :
    settle graph ledger = some (ledger.settle graph) := by
  have hrows := table_subset hgraph hledger
  have htable : (graph.modules.map fun module ↦
      (⟨ledger.importList graph module, ledger.manualBlocks module.id⟩ : Import.ModuleImports)).map
        (fun module ↦ module.imports.map (·.module)) = ledger.table graph := by
    rw [List.map_map]
    rfl
  have hsize : (ledger.table graph).length < UInt32.size := by
    have hmodules := hfits.modules
    rw [Import.Ledger.table, List.length_map]
    omega
  have hnamed : (Import.cycles (ledger.table graph)).mapM (·.mapM graph.fetchModuleName?) =
      some ((Import.cycles (ledger.table graph)).map (·.map graph.moduleName)) :=
    mapM_eq_some fun cycle hcycle ↦ mapM_eq_some fun id hid ↦
      hfits.fetchModuleName?_eq (inRange_of_mem_cycles hrows hcycle id hid)
  simp only [settle, owners_eq hgraph hfits, htable, cycles_eq hsize hrows, hnamed,
    Option.bind_eq_bind, Option.bind_some]
  rw [List.map_map, Import.Ledger.settle, htable]
  rfl

end Addressed

/-- **No access of what decides a run is out of range**: its survey comes to the plan, or to the
problems, of the run. -/
theorem Run.Addressable.ofSurvey {run : Run} (h : run.Addressable) :
    Addressed.ofSurvey run.graph (Survey.ofRun run).addressed = some run.plan := by
  have hgraph := h.built.wellFormed
  have hsurvey := h.inRange_ofRun
  have hfull := h.inRange_fullLedger
  have hverdicts : (Survey.ofRun run).addressed.slots.mapM (·.verdict run.graph) =
      some ((Survey.ofRun run).verdicts run.graph) := by
    rw [Survey.addressed, List.mapM_map]
    exact Addressed.mapM_eq_some fun slot hslot ↦
      Addressed.verdict_eq hgraph h.fits (hsurvey.slots slot hslot)
  have hwritten : (((Survey.ofRun run).verdicts run.graph).flatMap (·.records)).foldlM
      (Addressed.write run.graph) (Survey.ofRun run).addressed.ledger =
        some ((Survey.ofRun run).fullLedger run.graph) :=
    Addressed.writeAll_eq h.fits (List.forall_mem_append.1 hfull).2 _
  simp only [Addressed.ofSurvey, hverdicts, hwritten, Addressed.settle_eq hgraph h.fits hfull,
    Option.bind_eq_bind, Option.bind_some]
  unfold Run.plan Plan.ofSurvey
  dsimp only [Survey.addressed, Survey.verdicts, Survey.fullLedger]
  -- Both sides look at the same problems, to see whether there are any.
  generalize (Survey.ofRun run).problems ++
      ((Survey.ofRun run).slots.map (·.verdict run.graph)).filterMap (·.problem?) ++
    (Import.Ledger.settle run.graph ((Survey.ofRun run).ledger ++
      ((Survey.ofRun run).slots.map (·.verdict run.graph)).flatMap (·.records))).problems =
        problems
  cases problems with
  | nil => rfl
  | cons problem problems => rfl

end Exposure
