import Exposure.Proofs.Plan.Orders

/-!
# Levels of scope

Imports and hand-written code are written down level by level: for each module its own scope first,
and then its declarations in source order (`Graph.levels`). A level records what its marks give if
all of them read, and nothing at all otherwise (`Visit.records_ofGraph`). So what a module asks for
and the hand-written code it holds are read off its levels in this order
(`Survey.requested_ofRun`, `Survey.manualBlocks_ofRun`), whatever is wrong elsewhere in the run.
-/

namespace Exposure

namespace Visit

/-- The module that a level belongs to. -/
def home : Visit → ModuleId
  | scope module => module.id
  | member declaration => declaration.module

/-- The name of a level. -/
def owner : Visit → String
  | scope module => module.name
  | member declaration => declaration.name

/-- The site of the marks of a level. -/
def site : Visit → Site
  | scope _ => .moduleScope
  | member declaration => .declaration declaration.kind

/-- The marks of a level. -/
def marks : Visit → List Mark
  | scope module => module.marks
  | member declaration => declaration.marks

/-- Every mark of a level reads. -/
def Reads (level : Visit) : Prop :=
  ∀ mark ∈ level.marks, ∃ item, mark.read level.owner level.site = .ok item

/-- What the marks of a level with a directive say, provided that all marks of the level read. -/
def legible (level : Visit) (directive : Directive) : List String :=
  match Annotations.read level.owner level.site level.marks with
  | .ok _ => Marks.payloads level.marks directive
  | .error _ => []

/-- The blocks of hand-written code that are legible at a level. -/
def blocks (level : Visit) : List Import.ManualBlock :=
  (level.legible .manual).map (.ofCode level.owner)

variable {level : Visit} {directive : Directive}

theorem legible_of_reads (h : level.Reads) :
    level.legible directive = Marks.payloads level.marks directive := by
  obtain ⟨annotations, hannotations⟩ := Annotations.exists_read_eq_ok.2 h
  rw [legible, hannotations]

/-- What is legible at a level is said there, and all marks of the level read. -/
theorem mem_legible {text : String} :
    text ∈ level.legible directive ↔
      level.Reads ∧ text ∈ Marks.payloads level.marks directive := by
  constructor
  · intro h
    rcases hread : Annotations.read level.owner level.site level.marks with found | annotations
    · rw [legible, hread] at h
      cases h
    · have hreads : level.Reads := Annotations.exists_read_eq_ok.1 ⟨annotations, hread⟩
      exact ⟨hreads, legible_of_reads hreads ▸ h⟩
  · rintro ⟨hreads, h⟩
    exact (legible_of_reads hreads).symm ▸ h

/-- A directive with a payload is legible only where it may stand. -/
theorem allowedOn_of_mem_legible {text : String} (h : text ∈ level.legible directive) :
    directive.allowedOn level.site := by
  obtain ⟨hreads, htext⟩ := mem_legible.1 h
  obtain ⟨annotations, hannotations⟩ := Annotations.exists_read_eq_ok.2 hreads
  exact Annotations.allowedOn_of_read hannotations (Marks.carry_of_mem_payloads htext)

/-- Nothing is legible where it may not stand. -/
theorem legible_eq_nil (h : directive.allowedOn level.site = false) :
    level.legible directive = [] := by
  refine List.eq_nil_iff_forall_not_mem.2 fun text htext ↦ ?_
  rw [allowedOn_of_mem_legible htext] at h
  cases h

/-- The records of annotations that are read at a level. -/
theorem records_of_read {module : ModuleId} :
    (Extraction.sides (Annotations.read level.owner level.site level.marks)).1.elim []
        (·.records module level.owner) =
      (level.legible .importModule).map (.request module) ++ level.blocks.map (.manual module) := by
  rw [blocks, List.map_map, legible, legible]
  rcases hread : Annotations.read level.owner level.site level.marks with found | annotations
  · rfl
  · show annotations.records module level.owner = _
    rw [Annotations.records, Annotations.imports_of_read hread,
      Annotations.manualBlocks_of_read hread]
    rfl

/-- **What a level records** is what is legible there. -/
theorem records_ofGraph {graph : Graph} (hgraph : graph.WellFormed) (depth : Nat)
    (byDefault : Bool) (hlevel : level.Within graph) :
    level.records (Run.ofGraph graph depth byDefault) =
      (level.legible .importModule).map (.request level.home) ++
        level.blocks.map (.manual level.home) := by
  rw [← records_of_read]
  cases level with
  | scope module =>
    have hstore := congrArg Prod.fst (Run.atModule_ofGraph hgraph depth byDefault hlevel)
    exact congrArg (Option.elim · [] (·.records module.id module.name)) hstore
  | member declaration =>
    have hstore := congrArg Prod.fst (Run.atDeclaration_ofGraph hgraph depth byDefault hlevel)
    rw [records]
    split
    · -- Neither directive may stand on an alias.
      rename_i halias
      have hkind : declaration.kind = .typeAlias := of_decide_eq_true halias
      rw [records_of_read, blocks, legible_eq_nil (by simp [site, hkind, Directive.allowedOn]),
        legible_eq_nil (by simp [site, hkind, Directive.allowedOn])]
      rfl
    · exact congrArg (Option.elim · [] (·.records declaration.module declaration.name)) hstore

end Visit

/-! ### The levels of a module -/

namespace Graph

/-- The levels of a module: its own scope, and then its declarations in source order. -/
def levels (graph : Graph) (module : Module) : List Visit :=
  .scope module :: (graph.members module.id).map .member

variable {graph : Graph}

theorem visits_eq (graph : Graph) : graph.visits = graph.modules.flatMap graph.levels := rfl

/-- The levels of a module belong to it. -/
theorem home_of_mem_levels {module : Module} {level : Visit} (h : level ∈ graph.levels module) :
    level.home = module.id := by
  rcases List.mem_cons.1 h with rfl | h
  · rfl
  · obtain ⟨declaration, hmember, rfl⟩ := List.mem_map.1 h
    exact of_decide_eq_true (List.mem_filter.1 hmember).2

/-- **The levels of a module are the visits to what belongs to it**, in order. -/
theorem WellFormed.filter_visits (hgraph : graph.WellFormed) {module : Module}
    (hmodule : module ∈ graph.modules) :
    graph.visits.filter (·.home = module.id) = graph.levels module := by
  have hnodup : graph.modules.Nodup := List.Nodup.of_map _ hgraph.nodup_module_ids
  have hown : (graph.levels module).filter (·.home = module.id) = graph.levels module :=
    List.filter_eq_self.2 fun level hlevel ↦ decide_eq_true (home_of_mem_levels hlevel)
  rw [visits_eq, List.filter_flatMap, flatMap_eq_of_forall_ne hnodup hmodule, hown]
  intro other hother hne
  refine List.filter_eq_nil_iff.2 fun level hlevel hhome ↦ hne ?_
  rw [decide_eq_true_iff, home_of_mem_levels hlevel] at hhome
  exact hgraph.module_unique hother hmodule hhome

/-- The levels of a module are its own scope and the declarations that belong to it. -/
theorem mem_levels {module : Module} {level : Visit} :
    level ∈ graph.levels module ↔
      level = .scope module ∨
        ∃ declaration ∈ graph.declarations, declaration.module = module.id ∧
          level = .member declaration := by
  rw [levels, List.mem_cons, List.mem_map]
  refine or_congr_right ⟨?_, ?_⟩
  · rintro ⟨declaration, hmember, rfl⟩
    obtain ⟨hmem, hid⟩ := List.mem_filter.1 hmember
    exact ⟨declaration, hmem, of_decide_eq_true hid, rfl⟩
  · rintro ⟨declaration, hmem, hid, rfl⟩
    exact ⟨declaration, List.mem_filter.2 ⟨hmem, decide_eq_true hid⟩, rfl⟩

end Graph

/-! ### What the levels come to -/

namespace Import.Ledger

variable {module : ModuleId}

theorem requested_flatMap {α : Type} (f : α → Ledger) (xs : List α) :
    requested (xs.flatMap f) module = xs.flatMap fun x ↦ requested (f x) module :=
  List.filterMap_flatMap

theorem manualBlocks_flatMap {α : Type} (f : α → Ledger) (xs : List α) :
    manualBlocks (xs.flatMap f) module = xs.flatMap fun x ↦ manualBlocks (f x) module :=
  List.filterMap_flatMap

/-- A level that asks for modules asks for its own module. -/
theorem requested_map_request (owner : ModuleId) (names : List String) :
    requested (names.map (.request owner)) module = if owner = module then names else [] := by
  rw [requested, List.filterMap_map]
  split
  · rename_i hself
    exact (List.filterMap_congr fun name _ ↦ if_pos hself).trans List.filterMap_some
  · rename_i hother
    exact List.filterMap_eq_nil_iff.2 fun name _ ↦ if_neg hother

theorem requested_map_manual (owner : ModuleId) (blocks : List ManualBlock) :
    requested (blocks.map (.manual owner)) module = [] := by
  rw [requested, List.filterMap_map]
  exact List.filterMap_eq_nil_iff.2 fun _ _ ↦ rfl

theorem manualBlocks_map_request (owner : ModuleId) (names : List String) :
    manualBlocks (names.map (.request owner)) module = [] := by
  rw [manualBlocks, List.filterMap_map]
  exact List.filterMap_eq_nil_iff.2 fun _ _ ↦ rfl

/-- A level that holds hand-written code holds it for its own module. -/
theorem manualBlocks_map_manual (owner : ModuleId) (blocks : List ManualBlock) :
    manualBlocks (blocks.map (.manual owner)) module = if owner = module then blocks else [] := by
  rw [manualBlocks, List.filterMap_map]
  split
  · rename_i hself
    exact (List.filterMap_congr fun block _ ↦ if_pos hself).trans List.filterMap_some
  · rename_i hother
    exact List.filterMap_eq_nil_iff.2 fun block _ ↦ if_neg hother

end Import.Ledger

namespace Survey

variable {graph : Graph} (hgraph : graph.WellFormed) (depth : Nat) (byDefault : Bool)
  {module : Module} (hmodule : module ∈ graph.modules)
include hgraph hmodule

/-- **What a module asks for**, level by level. -/
theorem requested_ofRun :
    ((ofRun (Run.ofGraph graph depth byDefault)).fullLedger graph).requested module.id =
      (graph.levels module).flatMap (·.legible .importModule) := by
  rw [ofRun_eq, Run.graph_ofGraph, ← ofVisits, requested_fullLedger, ← hgraph.filter_visits hmodule,
    flatMap_filter, Import.Ledger.requested_flatMap]
  refine List.flatMap_congr fun level hlevel ↦ ?_
  rw [Visit.records_ofGraph hgraph depth byDefault (hgraph.mem_visits.1 hlevel),
    Import.Ledger.requested_append, Import.Ledger.requested_map_request,
    Import.Ledger.requested_map_manual, List.append_nil]
  simp only [decide_eq_true_iff]

/-- **The hand-written code of a module**, level by level. -/
theorem manualBlocks_ofRun :
    ((ofRun (Run.ofGraph graph depth byDefault)).fullLedger graph).manualBlocks module.id =
      (graph.levels module).flatMap (·.blocks) := by
  rw [ofRun_eq, Run.graph_ofGraph, ← ofVisits, manualBlocks_fullLedger,
    ← hgraph.filter_visits hmodule, flatMap_filter, Import.Ledger.manualBlocks_flatMap]
  refine List.flatMap_congr fun level hlevel ↦ ?_
  rw [Visit.records_ofGraph hgraph depth byDefault (hgraph.mem_visits.1 hlevel),
    Import.Ledger.manualBlocks_append, Import.Ledger.manualBlocks_map_request,
    Import.Ledger.manualBlocks_map_manual, List.nil_append]
  simp only [decide_eq_true_iff]

end Survey
end Exposure
