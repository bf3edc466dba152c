import Exposure.Proofs.Document.Built
import Exposure.Proofs.Plan.Decided

/-!
# Imports of generated modules

A generated module can bind what another one emits only if it imports that module. The import
lists of a plan are **complete**: wherever an alias is bound to an entry, the module of the alias
emits the entry itself or imports the module that does. They are also **justified**: what a module
imports explicitly it asks for, and what it infers is due to an alias of its own that is bound to an
entry emitted there (`Plan.imports_complete_and_justified`).

A relocation by itself adds no import, as it is not what any import is justified by.
-/

namespace Exposure

/-- The aliases that an entry is bound to by name: the one that gave its name, and those that are
forwarded. -/
def PlanEntry.Binds (entry : PlanEntry) (id : DeclId) : Prop :=
  entry.namedBy = some id ∨ ∃ forwarded ∈ entry.forwarded, forwarded.aliasId = id

namespace Graph

variable {graph : Graph} {depth : Nat} {byDefault : Bool} {target : Declaration}

/-- The entry of a target binds the binders of the target. -/
theorem binds_entry {id : DeclId} :
    (graph.entry depth byDefault target).Binds id ↔
      ∃ binder ∈ graph.binders depth byDefault target, binder.id = id := by
  have hnamedBy : (graph.entry depth byDefault target).namedBy =
      (graph.namer? depth byDefault target).map (·.id) := rfl
  have hforwarded : (graph.entry depth byDefault target).forwarded =
      ((graph.requesters depth byDefault target).filter fun asking ↦
        asking.carries .visible && graph.namer? depth byDefault target ≠ some asking).map
          fun asking ↦ ⟨asking.id, asking.module, asking.shortName⟩ := rfl
  rw [PlanEntry.Binds, hnamedBy, hforwarded, Option.map_eq_some_iff]
  constructor
  · rintro (⟨namer, hnamer, rfl⟩ | ⟨forwarded, hforwarded, rfl⟩)
    · exact ⟨namer, List.mem_filter.2 ⟨mem_requesters_of_namer? hnamer, by simp [hnamer]⟩, rfl⟩
    · obtain ⟨asking, hasking, rfl⟩ := List.mem_map.1 hforwarded
      obtain ⟨hmem, hkept⟩ := List.mem_filter.1 hasking
      rw [Bool.and_eq_true] at hkept
      exact ⟨asking, List.mem_filter.2 ⟨hmem, by simp [hkept.1]⟩, rfl⟩
  · rintro ⟨binder, hbinder, rfl⟩
    obtain ⟨hmem, hbound⟩ := List.mem_filter.1 hbinder
    by_cases hnamer : graph.namer? depth byDefault target = some binder
    · exact .inl ⟨binder, hnamer, rfl⟩
    · have hvisible : binder.carries .visible := by simpa [hnamer] using hbound
      refine .inr ⟨_, List.mem_map.2 ⟨binder, List.mem_filter.2 ⟨hmem, ?_⟩, rfl⟩, rfl⟩
      simp [hvisible, hnamer]

/-- Binders are aliases of the run. -/
theorem of_mem_binders (hgraph : graph.WellFormed) {binder : Declaration}
    (h : binder ∈ graph.binders depth byDefault target) :
    binder ∈ graph.declarations ∧ binder.isAlias := by
  obtain ⟨hmem, hrequests⟩ := (mem_requesters hgraph).1 (List.mem_filter.1 h).1
  exact ⟨hmem, (requests_iff.1 hrequests).1⟩

/-- A site that is asked for is a module of the run. -/
theorem exists_module_site? (hgraph : graph.WellFormed) {asking : Declaration}
    (hmem : asking ∈ graph.declarations) {site : ModuleId}
    (hsite : graph.site? asking = some site) : ∃ module ∈ graph.modules, module.id = site := by
  rw [site?, Option.bind_eq_some_iff] at hsite
  obtain ⟨- | name, -, hsite⟩ := hsite
  · obtain rfl := Option.some.inj hsite
    exact hgraph.owned asking hmem
  · obtain ⟨module, hmodule, rfl⟩ := Option.map_eq_some_iff.1 hsite
    exact ⟨module, (hgraph.moduleNamed_eq_some.1 hmodule).1, rfl⟩

/-- Targets are emitted in modules of the run. -/
theorem exists_module_emissionModule (hgraph : graph.WellFormed)
    (hmem : target ∈ graph.declarations) :
    ∃ module ∈ graph.modules, module.id = graph.emissionModule depth byDefault target := by
  rw [emissionModule]
  rcases hsite : (graph.requesters depth byDefault target).findSome? graph.site? with - | site
  · exact hgraph.owned target hmem
  · obtain ⟨asking, hasking, hasked⟩ := List.exists_of_findSome?_eq_some hsite
    exact exists_module_site? hgraph ((mem_requesters hgraph).1 hasking).1 hasked

end Graph

namespace Plan.Decided

variable {graph : Graph} {depth : Nat} {byDefault : Bool} {plan : Plan}

/-- **Imports are complete**: whoever is bound to an entry can reach it. -/
theorem reaches (h : plan.Decided graph depth byDefault) (hgraph : graph.WellFormed)
    {entry : PlanEntry} (hentry : entry ∈ plan.entries) {id : DeclId} (hbinds : entry.Binds id) :
    ∃ binder ∈ graph.declarations, binder.isAlias ∧ binder.id = id ∧
      (binder.module = entry.emissionModule ∨
        ∃ listed ∈ plan.importsOf binder.module, listed.module = entry.emissionModule) := by
  obtain ⟨target, htarget, rfl⟩ := h.mem_entries.1 hentry
  obtain ⟨binder, hbinder, rfl⟩ := Graph.binds_entry.1 hbinds
  obtain ⟨hmem, halias⟩ := Graph.of_mem_binders hgraph hbinder
  refine ⟨binder, hmem, halias, rfl, or_iff_not_imp_left.2 fun haway ↦ ?_⟩
  obtain ⟨module, hmodule, hid⟩ := hgraph.owned binder hmem
  rw [← hid] at haway ⊢
  rw [h.importsOf_eq hgraph hmodule]
  -- The binder has left a reference, which the list of its module meets.
  have hreference : (graph.emissionModule depth byDefault target, binder.id) ∈
      (graph.ledger depth byDefault).referenced module.id := by
    rw [Import.Ledger.mem_referenced, Graph.reference_mem_ledger hgraph h.orderly.marksRead]
    exact ⟨⟨target, htarget, binder, hbinder, hid.symm, rfl, rfl⟩, Ne.symm haway⟩
  exact Import.Ledger.exists_mem_importList hreference

/-- A module imports another explicitly exactly if it asks for it. -/
theorem explicit_mem_importsOf (h : plan.Decided graph depth byDefault)
    (hgraph : graph.WellFormed) {module : Module} (hmodule : module ∈ graph.modules)
    {id : ModuleId} :
    ⟨id, .explicit⟩ ∈ plan.importsOf module.id ↔
      id ≠ module.id ∧ ∃ other ∈ graph.modules, other.id = id ∧
        graph.AsksFor module other.name := by
  rw [h.importsOf_eq hgraph hmodule, Import.Ledger.explicit_mem_importList,
    Import.Ledger.mem_requestedModules hgraph]
  simp only [Import.Ledger.mem_requested,
    Graph.request_mem_ledger hgraph h.orderly.marksRead hmodule]

/-- A module infers an import of another only from an alias of its own that is bound to an entry
emitted there, and only if it does not ask for it. -/
theorem of_inferred_mem_importsOf (h : plan.Decided graph depth byDefault)
    (hgraph : graph.WellFormed) {module : Module} (hmodule : module ∈ graph.modules)
    {id : ModuleId} {via : DeclId} (hlisted : ⟨id, .inferred via⟩ ∈ plan.importsOf module.id) :
    id ≠ module.id ∧
      (¬ ∃ other ∈ graph.modules, other.id = id ∧ graph.AsksFor module other.name) ∧
      (∃ binder ∈ graph.declarations, binder.isAlias ∧ binder.id = via ∧
        binder.module = module.id) ∧
      ∃ entry ∈ plan.entries, entry.Binds via ∧ entry.emissionModule = id := by
  rw [h.importsOf_eq hgraph hmodule] at hlisted
  obtain ⟨hunasked, hreferenced⟩ := Import.Ledger.of_inferred_mem_importList hlisted
  rw [Import.Ledger.mem_referenced, Graph.reference_mem_ledger hgraph h.orderly.marksRead]
    at hreferenced
  obtain ⟨⟨target, htarget, binder, hbinder, hid, hsite, rfl⟩, hother⟩ := hreferenced
  obtain ⟨hmem, halias⟩ := Graph.of_mem_binders hgraph hbinder
  refine ⟨hother, fun hasked ↦ hunasked ?_, ⟨binder, hmem, halias, rfl, hid⟩, ?_⟩
  · rw [← Import.Ledger.explicit_mem_importList, ← h.importsOf_eq hgraph hmodule]
    exact (h.explicit_mem_importsOf hgraph hmodule).2 ⟨hother, hasked⟩
  · exact ⟨_, h.mem_entries.2 ⟨target, htarget, rfl⟩, Graph.binds_entry.2 ⟨binder, hbinder, rfl⟩,
      hsite⟩

/-- Whatever a module lists is a module of the run. -/
theorem exists_of_mem_importsOf (h : plan.Decided graph depth byDefault)
    (hgraph : graph.WellFormed) {module : Module} (hmodule : module ∈ graph.modules)
    {listed : Import.Entry} (hlisted : listed ∈ plan.importsOf module.id) :
    ∃ other ∈ graph.modules, other.id = listed.module := by
  rcases listed with ⟨id, - | via⟩
  · obtain ⟨-, other, hother, hid, -⟩ := (h.explicit_mem_importsOf hgraph hmodule).1 hlisted
    exact ⟨other, hother, hid⟩
  · obtain ⟨-, -, -, entry, hentry, -, rfl⟩ := h.of_inferred_mem_importsOf hgraph hmodule hlisted
    obtain ⟨target, htarget, rfl⟩ := h.mem_entries.1 hentry
    exact Graph.exists_module_emissionModule hgraph ((Graph.mem_exposed hgraph).1 htarget).1

end Plan.Decided

/-- **Import lists are complete and justified**, and well ordered: no module imports itself or
another one twice, and explicit imports come first. -/
theorem Plan.imports_complete_and_justified {graph : Graph} (h : graph.Built) {depth : Nat}
    {byDefault : Bool} {plan : Plan}
    (hplan : (Run.ofGraph graph depth byDefault).plan = .ok plan) :
    (∀ entry ∈ plan.entries, ∀ id, entry.Binds id →
      ∃ binder ∈ graph.declarations, binder.isAlias ∧ binder.id = id ∧
        (binder.module = entry.emissionModule ∨
          ∃ listed ∈ plan.importsOf binder.module, listed.module = entry.emissionModule)) ∧
    ∀ module ∈ graph.modules,
      (∀ id, ⟨id, .explicit⟩ ∈ plan.importsOf module.id ↔
        id ≠ module.id ∧ ∃ other ∈ graph.modules, other.id = id ∧
          graph.AsksFor module other.name) ∧
      (∀ id via, ⟨id, .inferred via⟩ ∈ plan.importsOf module.id →
        id ≠ module.id ∧
        (¬ ∃ other ∈ graph.modules, other.id = id ∧ graph.AsksFor module other.name) ∧
        (∃ binder ∈ graph.declarations, binder.isAlias ∧ binder.id = via ∧
          binder.module = module.id) ∧
        ∃ entry ∈ plan.entries, entry.Binds via ∧ entry.emissionModule = id) ∧
      (∀ listed ∈ plan.importsOf module.id, listed.module ≠ module.id) ∧
      ((plan.importsOf module.id).map (·.module)).Nodup ∧
      (plan.importsOf module.id).Pairwise fun first second ↦
        second.origin = .explicit → first.origin = .explicit := by
  have hgraph := h.wellFormed
  have hdecided := Run.decided_of_plan hgraph hplan
  refine ⟨fun entry hentry id hbinds ↦ hdecided.reaches hgraph hentry hbinds,
    fun module hmodule ↦ ⟨fun id ↦ hdecided.explicit_mem_importsOf hgraph hmodule,
      fun id via ↦ hdecided.of_inferred_mem_importsOf hgraph hmodule, ?_⟩⟩
  rw [hdecided.importsOf_eq hgraph hmodule]
  exact ⟨fun listed ↦ Import.Ledger.module_ne_of_mem_importList hgraph,
    Import.Ledger.nodup_importList, Import.Ledger.pairwise_importList⟩

/-- In the sample the tools import the interface, for they bind the point that it emits. -/
theorem Document.sampleGraph_imports :
    ∃ plan, (Run.ofGraph sampleGraph 64 false).plan = .ok plan ∧
      plan.importsOf ⟨3⟩ = [⟨⟨2⟩, .inferred ⟨5⟩⟩] ∧
      ∃ entry ∈ plan.entries, entry.Binds ⟨5⟩ ∧ entry.emissionModule = ⟨2⟩ := by
  obtain ⟨plan, hplan⟩ : ∃ plan, (Run.ofGraph sampleGraph 64 false).plan = .ok plan := ⟨_, rfl⟩
  have himports : plan.importsOf ⟨3⟩ = [⟨⟨2⟩, .inferred ⟨5⟩⟩] := by
    cases hplan
    rfl
  have htools : (⟨⟨3⟩, "tools", []⟩ : Module) ∈ sampleGraph.modules := by simp [sampleGraph]
  obtain ⟨-, hjustified, -⟩ :=
    (Plan.imports_complete_and_justified sampleGraph_built hplan).2 _ htools
  exact ⟨plan, hplan, himports, (hjustified ⟨2⟩ ⟨5⟩ (by rw [himports]; simp)).2.2.2⟩

end Exposure
