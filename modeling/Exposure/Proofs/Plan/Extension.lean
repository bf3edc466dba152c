import Exposure.Proofs.Plan.ManualCode
import Exposure.Proofs.Plan.Transparent

/-!
# Plans of extended graphs

A transparent alias changes nothing (`Plan.transparent_alias_changes_nothing`): the graph that is
extended by it has a plan, and that plan binds what the plan of the graph binds, in the same places
and under the same names, and warns of the same. The alias itself is answered with the entry of its
target. All that may change is the order of entries, for the alias may be the first that requests
its target, and with it the order of references and relocations.
-/

namespace Exposure

/-- **Generated modules that import alike**: they hold the same hand-written code and import the
same modules, each of them explicitly in both or by inference in both. -/
structure ModulePlan.ImportsAlike (module other : ModulePlan) : Prop where
  id : module.id = other.id
  name : module.name = other.name
  manualBlocks : module.manualBlocks = other.manualBlocks
  explicit : ∀ imported, ⟨imported, .explicit⟩ ∈ module.imports ↔
    ⟨imported, .explicit⟩ ∈ other.imports
  inferred : ∀ imported, (∃ via, ⟨imported, .inferred via⟩ ∈ module.imports) ↔
    ∃ via, ⟨imported, .inferred via⟩ ∈ other.imports

/-- What one of two modules that import alike imports, the other one imports. -/
theorem ModulePlan.ImportsAlike.exists_listed_iff {module other : ModulePlan}
    (h : module.ImportsAlike other) {imported : ModuleId} :
    (∃ listed ∈ module.imports, listed.module = imported) ↔
      ∃ listed ∈ other.imports, listed.module = imported := by
  have horigin (imports : List Import.Entry) :
      (∃ listed ∈ imports, listed.module = imported) ↔
        ⟨imported, .explicit⟩ ∈ imports ∨ ∃ via, ⟨imported, .inferred via⟩ ∈ imports := by
    constructor
    · rintro ⟨⟨site, - | via⟩, hlisted, rfl⟩
      · exact .inl hlisted
      · exact .inr ⟨via, hlisted⟩
    · rintro (hlisted | ⟨via, hlisted⟩)
      · exact ⟨_, hlisted, rfl⟩
      · exact ⟨_, hlisted, rfl⟩
  rw [horigin, horigin, h.explicit, h.inferred]

/-- **Plans that bind alike**: the same entries and relocations up to order, the same warnings, and
generated modules that import alike. -/
structure Plan.BindsAlike (plan other : Plan) : Prop where
  entries : plan.entries.Perm other.entries
  relocations : plan.relocations.Perm other.relocations
  warnings : plan.warnings = other.warnings
  modules : List.Forall₂ ModulePlan.ImportsAlike plan.modules other.modules

namespace Graph.Transparent

open Import (Ledger)

variable {extended graph : Graph} {depth : Nat} {byDefault : Bool} {added target : Declaration}
  (h : extended.Transparent graph depth byDefault added target) {before after : Plan}
  (hbefore : before.Decided graph depth byDefault) (hafter : after.Decided extended depth byDefault)
  {module : Module} (hmodule : module ∈ graph.modules)
include h hbefore hafter

/-! ### Imports -/

include hmodule in
/-- A module asks for the same modules. -/
theorem mem_requestedModules_iff {id : ModuleId} :
    id ∈ Ledger.requestedModules extended (extended.ledger depth byDefault) module ↔
      id ∈ Ledger.requestedModules graph (graph.ledger depth byDefault) module := by
  have hmodule' : module ∈ extended.modules := h.modules.symm ▸ hmodule
  simp only [Ledger.mem_requestedModules h.extended_built.wellFormed,
    Ledger.mem_requestedModules h.built.wellFormed, Ledger.mem_requested,
    request_mem_ledger h.extended_built.wellFormed hafter.orderly.marksRead hmodule',
    request_mem_ledger h.built.wellFormed hbefore.orderly.marksRead hmodule, h.asksFor_iff,
    h.modules]

/-- A module refers to the same modules, through the same aliases. -/
theorem mem_referenced_iff {id site : ModuleId} {via : DeclId} :
    (site, via) ∈ (extended.ledger depth byDefault).referenced id ↔
      (site, via) ∈ (graph.ledger depth byDefault).referenced id := by
  rw [Ledger.mem_referenced, Ledger.mem_referenced,
    reference_mem_ledger h.extended_built.wellFormed hafter.orderly.marksRead,
    reference_mem_ledger h.built.wellFormed hbefore.orderly.marksRead]
  refine and_congr_left fun _ ↦ exists_congr fun other ↦ ?_
  rw [h.mem_exposed_iff]
  refine and_congr_right fun hexposed ↦ ?_
  rw [h.binders_eq ((mem_exposed h.built.wellFormed).1 hexposed).1, h.emissionModule_eq]

include hmodule in
theorem manualBlocks_ledger_eq :
    (extended.ledger depth byDefault).manualBlocks module.id =
      (graph.ledger depth byDefault).manualBlocks module.id := by
  have hmodule' : module ∈ extended.modules := h.modules.symm ▸ hmodule
  have hkind : added.kind = .typeAlias := of_decide_eq_true h.isAlias
  rw [manualBlocks_ledger h.extended_built.wellFormed hafter.orderly hafter.emittable hmodule',
    manualBlocks_ledger h.built.wellFormed hbefore.orderly hbefore.emittable hmodule,
    h.filter_members (by simp [hkind])]

include hmodule in
/-- **A generated module imports what it did.** -/
theorem importsAlike : ModulePlan.ImportsAlike
    ⟨module.id, module.name,
      Ledger.importList extended (extended.ledger depth byDefault) module,
      (extended.ledger depth byDefault).manualBlocks module.id⟩
    ⟨module.id, module.name, Ledger.importList graph (graph.ledger depth byDefault) module,
      (graph.ledger depth byDefault).manualBlocks module.id⟩ where
  id := rfl
  name := rfl
  manualBlocks := h.manualBlocks_ledger_eq hbefore hafter hmodule
  explicit imported := by
    rw [Ledger.explicit_mem_importList, Ledger.explicit_mem_importList,
      h.mem_requestedModules_iff hbefore hafter hmodule]
  inferred imported := by
    simp only [Ledger.exists_inferred_mem_importList,
      h.mem_requestedModules_iff hbefore hafter hmodule, h.mem_referenced_iff hbefore hafter]

/-! ### Cycles -/

/-- The same modules list each other. -/
theorem lists_table_eq :
    Import.Lists (Ledger.table extended (extended.ledger depth byDefault)) =
      Import.Lists (Ledger.table graph (graph.ledger depth byDefault)) := by
  have hgraph := h.built.wellFormed
  have hextended := h.extended_built.wellFormed
  funext a b
  refine propext ?_
  by_cases hknown : ∃ module ∈ graph.modules, module.id = a
  · obtain ⟨module, hmodule, rfl⟩ := hknown
    rw [Ledger.lists_table hextended (h.modules.symm ▸ hmodule), Ledger.lists_table hgraph hmodule]
    exact (h.importsAlike hbefore hafter hmodule).exists_listed_iff
  · -- Outside the run nothing is listed.
    refine iff_of_false (fun hlists ↦ hknown ?_) fun hlists ↦ hknown ?_
    · rw [← h.modules]
      exact (Ledger.mem_nodes_table hextended).1 hlists.mem_nodes
    · exact (Ledger.mem_nodes_table hgraph).1 hlists.mem_nodes

theorem cycles_table_eq :
    Import.cycles (Ledger.table extended (extended.ledger depth byDefault)) =
      Import.cycles (Ledger.table graph (graph.ledger depth byDefault)) :=
  Import.cycles_eq_of_lists_eq (hafter.closed_table h.extended_built.wellFormed)
    (hbefore.closed_table h.built.wellFormed) (h.lists_table_eq hbefore hafter)

/-! ### The plan -/

/-- Who has an entry has the same entry. -/
theorem entries_perm : after.entries.Perm before.entries := by
  have hsame : (graph.exposed depth byDefault).map (extended.entry depth byDefault) =
      (graph.exposed depth byDefault).map (graph.entry depth byDefault) :=
    List.map_congr_left fun other hexposed ↦
      h.entry_eq ((mem_exposed h.built.wellFormed).1 hexposed).1
  rw [hafter.entries, hbefore.entries, ← hsame]
  exact h.exposed_perm.map _

/-- What is relocated is relocated to the same module for the same alias. -/
theorem relocations_perm : after.relocations.Perm before.relocations := by
  have hsame : extended.relocation? depth byDefault = graph.relocation? depth byDefault :=
    funext h.relocation?_eq
  rw [hafter.relocations, hbefore.relocations, hsame]
  exact h.exposed_perm.filterMap _

/-- What has an entry, and which, is no different. -/
theorem entryOf?_eq (id : DeclId) : after.entryOf? id = before.entryOf? id := by
  ext entry
  rw [hafter.entryOf?_eq_some h.extended_built.wellFormed,
    hbefore.entryOf?_eq_some h.built.wellFormed, (h.entries_perm hbefore hafter).mem_iff]

section Planned

variable (hplan : (Run.ofGraph graph depth byDefault).plan = .ok before)
  (hplan' : (Run.ofGraph extended depth byDefault).plan = .ok after)
include hplan hplan'

/-- The same warnings are given in the same order. -/
theorem warnings_eq : after.warnings = before.warnings := by
  have hself : (graph.modules.filter fun module ↦ extended.AsksFor module module.name) =
      graph.modules.filter fun module ↦ graph.AsksFor module module.name :=
    List.filter_congr fun module _ ↦ decide_eq_decide.2 h.asksFor_iff
  rw [hafter.warnings_eq h.extended_built.wellFormed hplan',
    hbefore.warnings_eq h.built.wellFormed hplan, h.refused_eq, h.refusals_eq, h.modules, hself,
    h.cycles_table_eq hbefore hafter, h.moduleName_eq]

/-- **The plan of the extended graph binds what the plan of the graph binds.** -/
theorem bindsAlike : after.BindsAlike before where
  entries := h.entries_perm hbefore hafter
  relocations := h.relocations_perm hbefore hafter
  warnings := h.warnings_eq hbefore hafter hplan hplan'
  modules := by
    rw [hafter.modules, hbefore.modules, h.modules, List.forall₂_map_left_iff,
      List.forall₂_map_right_iff, List.forall₂_same]
    exact fun module hmodule ↦ h.importsAlike hbefore hafter hmodule

/-- Old declarations are answered as before. -/
theorem lookup_eq {declaration : Declaration} (hmem : declaration ∈ graph.declarations) :
    after.lookup declaration.id = before.lookup declaration.id := by
  obtain ⟨chain, hchain⟩ := h.orderly.exists_chain hmem
  have htarget : graph.target? depth declaration = some chain.target :=
    target?_eq_some.2 ⟨chain, hchain, rfl⟩
  rw [Plan.lookup_eq_entryOf? h.extended_built.wellFormed hplan'
      (h.mem_declarations.2 (.inl hmem)) ((h.target?_eq hmem).trans htarget),
    Plan.lookup_eq_entryOf? h.built.wellFormed hplan hmem htarget, h.entryOf?_eq hbefore hafter]

omit hplan in
/-- The alias is answered with the entry of its target. -/
theorem lookup_added : after.lookup added.id = before.entryOf? target.id := by
  rw [Plan.lookup_eq_entryOf? h.extended_built.wellFormed hplan' h.added_mem h.leads,
    h.entryOf?_eq hbefore hafter]

end Planned
end Graph.Transparent

/-- **A transparent alias changes nothing.** Let a graph have a plan, and let an alias without marks
be added to it, with a new name, in a module of the run and inside a name scope of the graph or
none. Then the addition is accepted. If the chain of the alias ends at a declaration with an entry
that is visible itself or that some alias requests by its own marks, the extended graph has a plan
too, and that one binds what the first one does: entries and relocations are the same up to order,
warnings are the same, and generated modules hold the same code and import the same modules for the
same sort of reason. Old declarations are answered as before, and the alias with the entry of its
target. -/
theorem Plan.transparent_alias_changes_nothing {draft : Graph.Draft} (hdraft : draft.Reached)
    {graph : Graph} (hbuild : draft.build = .ok graph) {depth : Nat} {byDefault : Bool}
    {before : Plan} (hplan : (Run.ofGraph graph depth byDefault).plan = .ok before)
    {spec : Graph.Spec} (hfits : spec.Fits graph) (halias : spec.kind = .typeAlias)
    (hunmarked : spec.marks = []) :
    ∃ next id extended added, draft.addDeclaration spec = .ok (next, id) ∧
      next.build = .ok extended ∧ extended.Extends graph added ∧ added.id = id ∧
      ∀ chain, Alias.resolve extended depth added = .ok chain →
        ∀ entry, before.entryOf? chain.target.id = some entry →
          (graph.isVisible byDefault chain.target ∨ ∃ asking ∈ graph.declarations,
            (asking.carries .visible ∨ asking.carries .encourage ∨ asking.carries .exposeHere) ∧
              graph.requests depth byDefault asking chain.target) →
          ∃ after, (Run.ofGraph extended depth byDefault).plan = .ok after ∧
            after.BindsAlike before ∧
            (∀ old ∈ graph.declarations, after.lookup old.id = before.lookup old.id) ∧
            after.lookup id = some entry := by
  obtain ⟨next, id, extended, added, hadd, hextended, hextends, rfl, hkind, hmarks⟩ :=
    Graph.Draft.exists_extends hdraft hbuild hfits
  refine ⟨next, added.id, extended, added, hadd, hextended, hextends, rfl,
    fun chain hchain entry hentry hclaimed ↦ ?_⟩
  have hbuilt : graph.Built := ⟨draft, hdraft, hbuild⟩
  have hbefore := Run.decided_of_plan hbuilt.wellFormed hplan
  have hadded : added.isAlias := decide_eq_true (hkind.trans halias)
  -- The target is not the alias itself, so it was there before, and its entry shows it exposed.
  have htarget : chain.target ∈ graph.declarations := by
    obtain ⟨hmem, hother⟩ := Alias.target_of_resolve hextends.added_mem hchain
    refine (hextends.mem_declarations.1 hmem).resolve_right fun heq ↦ ?_
    rw [heq, hadded] at hother
    cases hother
  obtain ⟨hlisted, hcanonical⟩ := (hbefore.entryOf?_eq_some hbuilt.wellFormed).1 hentry
  have htransparent : extended.Transparent graph depth byDefault added chain.target :=
    { hextends with
      built := hbuilt
      extended_built := ⟨next, hdraft.addDeclaration hadd, hextended⟩
      orderly := hbefore.orderly
      isAlias := hadded
      unmarked := hmarks.trans hunmarked
      leads := Graph.target?_eq_some.2 ⟨chain, hchain, rfl⟩
      exposed := (hbefore.exists_entry_iff hbuilt.wellFormed htarget).1
        ⟨entry, hlisted, hcanonical⟩
      claimed := hclaimed.imp_right fun ⟨asking, hmem, hmarked, hrequests⟩ ↦
        ⟨asking, hmem, Marks.askExposure_iff.2 hmarked, hrequests⟩ }
  have hvalid : graph.Valid depth :=
    (Graph.clean_iff_valid hbuilt.wellFormed).1 (exists_ofSurvey_eq_ok.1 ⟨before, hplan⟩)
  obtain ⟨after, hplan'⟩ := exists_ofSurvey_eq_ok.2
    ((Graph.clean_iff_valid htransparent.extended_built.wellFormed).2 (htransparent.valid hvalid))
  have hafter := Run.decided_of_plan htransparent.extended_built.wellFormed hplan'
  refine ⟨after, hplan', htransparent.bindsAlike hbefore hafter hplan hplan',
    fun old hmem ↦ htransparent.lookup_eq hbefore hafter hplan hplan' hmem, ?_⟩
  rw [htransparent.lookup_added hbefore hafter hplan', hentry]

/-- The draft of the sample. -/
def Document.sampleDraft : Graph.Draft where
  modules := sampleGraph.modules
  pending := sampleGraph.declarations.map fun declaration ↦
    ⟨{ declaration with parent := none }, declaration.parent.map sampleGraph.declarationName⟩

theorem Document.sampleDraft_reached : sampleDraft.Reached := by
  have hmodules : addModules .empty sample.modules = .ok ⟨sampleGraph.modules, []⟩ := rfl
  have hdeclarations :
      addDeclarations ⟨sampleGraph.modules, []⟩ sample.declarations = .ok sampleDraft := rfl
  exact reached_of_addDeclarations (reached_of_addModules .empty hmodules) hdeclarations

/-- A hint in the tools that leads to their dot, visible by the library around it. -/
def Document.hint : Graph.Spec :=
  ⟨"lib::Hint", .typeAlias, "tools", some "lib", some "tools::Dot", []⟩

/-- With the hint the sample still has one entry, one relocation and the imports it had, and the
hint is answered with the point, which it requests like the spot and the dot. -/
theorem Document.sampleGraph_with_hint :
    ∃ next id extended before after, sampleDraft.addDeclaration hint = .ok (next, id) ∧
      next.build = .ok extended ∧ (Run.ofGraph sampleGraph 64 false).plan = .ok before ∧
      (Run.ofGraph extended 64 false).plan = .ok after ∧ after.BindsAlike before ∧
      after.lookup id = before.entryOf? ⟨2⟩ ∧ (before.entryOf? ⟨2⟩).isSome := by
  obtain ⟨before, hplan⟩ : ∃ plan, (Run.ofGraph sampleGraph 64 false).plan = .ok plan := ⟨_, rfl⟩
  have hfits : hint.Fits sampleGraph :=
    { fresh := by decide
      known := by decide
      target := rfl
      inside := by
        rintro name ⟨⟩
        exact ⟨_, List.mem_cons_self, rfl, rfl⟩ }
  obtain ⟨next, id, extended, added, hadd, hextended, hextends, hid, hsame⟩ :=
    Plan.transparent_alias_changes_nothing sampleDraft_reached
      (show sampleDraft.build = .ok sampleGraph from rfl) hplan hfits rfl rfl
  -- The hint is the sixth declaration, and its chain ends at the point.
  obtain ⟨last, hlast, aliases, hchain⟩ : ∃ last : Declaration,
      some last = extended.declarations[5]? ∧ ∃ aliases, Alias.resolve extended 64 last =
        .ok ⟨aliases, ⟨⟨2⟩, "lib::Point", .record, ⟨1⟩, some ⟨1⟩, none, []⟩⟩ := by
    cases hadd
    cases hextended
    exact ⟨_, rfl, _, rfl⟩
  obtain rfl : last = added := by
    rw [hextends.declarations] at hlast
    exact Option.some.inj hlast
  obtain ⟨entry, hentry⟩ : ∃ entry, before.entryOf? ⟨2⟩ = some entry := by
    cases hplan
    exact ⟨_, rfl⟩
  obtain ⟨after, hplan', halike, -, hlookup⟩ := hsame _ hchain entry hentry (.inl rfl)
  exact ⟨next, id, extended, before, after, hadd, hextended, hplan, hplan', halike,
    hlookup.trans hentry.symm, by rw [hentry]; rfl⟩

end Exposure
