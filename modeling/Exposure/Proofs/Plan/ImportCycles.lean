import Mathlib
import Exposure.Proofs.Document.Built
import Exposure.Proofs.Import.Groups
import Exposure.Proofs.Plan.Imports

/-!
# Warnings about import cycles

What a plan warns of as a cycle is a **group**: modules of which each can be reached from each along
the imports of the plan, all of them, in the order of the run (`Plan.import_cycle_warnings`). That
order is not one in which they import each other. A group of two is a cycle as it stands; a ring of
three that runs against the order of the run is not (`Document.ringsGraph_no_path`).
-/

namespace Exposure

/-- A generated module lists another among its imports. -/
def Plan.Lists (plan : Plan) (a b : ModuleId) : Prop :=
  ∃ listed ∈ plan.importsOf a, listed.module = b

/-! ### The table of imports -/

namespace Import.Ledger

variable {graph : Graph} {ledger : Ledger} {a b : ModuleId}

/-- The import lists that a ledger comes to, one row a module. -/
def table (graph : Graph) (ledger : Ledger) : List (List ModuleId) :=
  graph.modules.map fun module ↦ (importList graph ledger module).map (·.module)

/-- The cycles that a ledger warns of are those of its table. -/
theorem importCycle_mem_warnings {names : List String} :
    .importCycle names ∈ (settle graph ledger).warnings ↔
      ∃ members ∈ cycles (table graph ledger), members.map graph.moduleName = names := by
  have hrows : (graph.modules.map fun module ↦
      (⟨importList graph ledger module, ledger.manualBlocks module.id⟩ : ModuleImports)).map
        (fun module ↦ module.imports.map (·.module)) = table graph ledger := by
    rw [List.map_map]
    rfl
  have hself : .importCycle names ∉ graph.modules.flatMap (selfImports graph ledger) := by
    intro h
    obtain ⟨module, -, hmodule⟩ := List.mem_flatMap.1 h
    rw [selfImports] at hmodule
    split at hmodule
    · cases List.mem_singleton.1 hmodule
    · cases hmodule
  rw [settle]
  dsimp only
  rw [hrows, List.mem_append, or_iff_right hself, List.mem_map]
  simp only [Warning.importCycle.injEq]

/-- The modules of the table are those of the run. -/
theorem mem_nodes_table (hgraph : graph.WellFormed) :
    a ∈ nodes (table graph ledger) ↔ ∃ module ∈ graph.modules, module.id = a := by
  rw [mem_nodes, table, List.length_map, ← isSome_nth?, Option.isSome_iff_exists]
  exact exists_congr fun module ↦ hgraph.module?_eq_some

/-- A row of the table is the import list of its module. -/
theorem lists_table {module : Module} (hgraph : graph.WellFormed)
    (hmodule : module ∈ graph.modules) :
    Import.Lists (table graph ledger) module.id b ↔
      ∃ listed ∈ importList graph ledger module, listed.module = b := by
  have hfound : nth? graph.modules module.id.number = some module :=
    hgraph.module?_eq_some.2 ⟨hmodule, rfl⟩
  have hrow : nth? (table graph ledger) module.id.number =
      some ((importList graph ledger module).map (·.module)) := by
    rcases hnumber : module.id.number with - | index
    · rw [hnumber] at hfound
      cases hfound
    · rw [hnumber, nth?] at hfound
      rw [nth?, table, List.getElem?_map, hfound]
      rfl
  rw [Import.Lists, importsOf, hrow, Option.getD_some, List.mem_map]

end Import.Ledger

/-- The warnings that a verdict leaves are about aliases of what is hidden. -/
theorem Slot.of_mem_warnings_verdict {graph : Graph} {slot : Slot} {warning : Warning}
    (h : warning ∈ (slot.verdict graph).warnings) :
    ∃ aliasName target, warning = .aliasToHidden aliasName target := by
  unfold verdict at h
  split at h
  · obtain ⟨request, -, rfl⟩ := List.mem_map.1 h
    exact ⟨_, _, rfl⟩
  · split at h
    · cases h
    · cases h
    · split at h <;> cases h

/-! ### Cycles of a plan -/

namespace Plan.Decided

variable {graph : Graph} {depth : Nat} {byDefault : Bool} {plan : Plan} {a b : ModuleId}
  (h : plan.Decided graph depth byDefault) (hgraph : graph.WellFormed)
include h hgraph

/-- What the table of a plan lists, the plan lists. -/
theorem lists_iff :
    plan.Lists a b ↔
      Import.Lists (Import.Ledger.table graph (graph.ledger depth byDefault)) a b := by
  by_cases hknown : ∃ module ∈ graph.modules, module.id = a
  · obtain ⟨module, hmodule, rfl⟩ := hknown
    rw [Import.Ledger.lists_table hgraph hmodule, Plan.Lists, h.importsOf_eq hgraph hmodule]
  · -- Outside the run nothing is listed.
    refine iff_of_false ?_ fun hlists ↦
      hknown ((Import.Ledger.mem_nodes_table hgraph).1 hlists.mem_nodes)
    rintro ⟨listed, hlisted, -⟩
    rw [Plan.importsOf, h.module?_eq] at hlisted
    rcases hmodule : graph.module? a with - | module
    · rw [hmodule] at hlisted
      cases hlisted
    · exact hknown ⟨module, hgraph.module?_eq_some.1 hmodule⟩

/-- No module lists itself. -/
theorem not_lists_self : ¬ plan.Lists a a := by
  rw [h.lists_iff hgraph]
  intro hlists
  obtain ⟨module, hmodule, rfl⟩ := (Import.Ledger.mem_nodes_table hgraph).1 hlists.mem_nodes
  obtain ⟨listed, hlisted, hself⟩ := (Import.Ledger.lists_table hgraph hmodule).1 hlists
  exact Import.Ledger.module_ne_of_mem_importList hgraph hlisted hself

/-- The table of a plan lists modules of the run only. -/
theorem closed_table :
    Import.Closed (Import.Ledger.table graph (graph.ledger depth byDefault)) := by
  intro a b hlists
  obtain ⟨module, hmodule, rfl⟩ := (Import.Ledger.mem_nodes_table hgraph).1 hlists.mem_nodes
  rw [← h.lists_iff hgraph] at hlists
  obtain ⟨listed, hlisted, rfl⟩ := hlists
  exact (Import.Ledger.mem_nodes_table hgraph).2 (h.exists_of_mem_importsOf hgraph hmodule hlisted)

/-- A plan warns of the cycles in its table. -/
theorem importCycle_mem_warnings (hplan : (Run.ofGraph graph depth byDefault).plan = .ok plan)
    {names : List String} (hwarned : .importCycle names ∈ plan.warnings) :
    ∃ members ∈ Import.cycles (Import.Ledger.table graph (graph.ledger depth byDefault)),
      members.map graph.moduleName = names := by
  rw [(Plan.comesTo_of_ofSurvey hplan).warnings, Run.graph_ofGraph,
    Graph.fullLedger_ofRun hgraph h.orderly h.emittable, List.mem_append] at hwarned
  rcases hwarned with hverdict | hsettled
  · obtain ⟨verdict, hverdict, hwarning⟩ := List.mem_flatMap.1 hverdict
    obtain ⟨slot, -, rfl⟩ := List.mem_map.1 hverdict
    obtain ⟨_, _, hother⟩ := Slot.of_mem_warnings_verdict hwarning
    cases hother
  · exact Import.Ledger.importCycle_mem_warnings.1 hsettled

end Plan.Decided

/-- **A warning about an import cycle names a group**: two modules of the run or more, of which each
can be reached from each along imports, and no further module can; in the order of the run. Where
there are two of them, each lists the other. -/
theorem Plan.import_cycle_warnings {graph : Graph} (h : graph.Built) {depth : Nat}
    {byDefault : Bool} {plan : Plan}
    (hplan : (Run.ofGraph graph depth byDefault).plan = .ok plan) {names : List String}
    (hwarned : .importCycle names ∈ plan.warnings) :
    ∃ members : List ModuleId, names = members.map graph.moduleName ∧ 2 ≤ members.length ∧
      (∀ a ∈ members, ∃ module ∈ graph.modules, module.id = a) ∧
      members.Pairwise (fun a b ↦ a.number < b.number) ∧
      (∀ a ∈ members, ∀ b, b ∈ members ↔
        Relation.ReflTransGen plan.Lists a b ∧ Relation.ReflTransGen plan.Lists b a) ∧
      (members.length = 2 → (members : Cycle ModuleId).Chain plan.Lists) := by
  have hgraph := h.wellFormed
  have hdecided := Run.decided_of_plan hgraph hplan
  have hlists : Import.Lists (Import.Ledger.table graph (graph.ledger depth byDefault)) =
      plan.Lists := by
    funext a b
    exact propext (hdecided.lists_iff hgraph).symm
  obtain ⟨members, hmembers, rfl⟩ := hdecided.importCycle_mem_warnings hgraph hplan hwarned
  obtain ⟨hlength, hnodes, hordered, hjoined⟩ :=
    Import.of_mem_cycles (hdecided.closed_table hgraph) hmembers
  rw [hlists] at hjoined
  refine ⟨members, rfl, hlength, fun a ha ↦ (Import.Ledger.mem_nodes_table hgraph).1 (hnodes a ha),
    hordered, hjoined, fun htwo ↦ ?_⟩
  -- A way from one of two modules to the other that never leaves the two is a single step.
  obtain ⟨a, b, rfl⟩ := List.length_eq_two.1 htwo
  have hlt : a.number < b.number := by simpa using hordered
  have hne : a ≠ b := fun heq ↦ by simp [heq] at hlt
  have hto := (hjoined a (by simp) b).1 (by simp)
  have hself : ∀ x, ¬ plan.Lists x x := fun _ ↦ hdecided.not_lists_self hgraph
  have hab : plan.Lists a b := Import.lists_of_joined hself hne hto.1 hto.2 fun x hax hxa ↦ by
    simpa using (hjoined a (by simp) x).2 ⟨hax, hxa⟩
  have hba : plan.Lists b a := Import.lists_of_joined hself hne.symm hto.2 hto.1 fun x hbx hxb ↦ by
    simpa [or_comm] using (hjoined b (by simp) x).2 ⟨hbx, hxb⟩
  simpa [Cycle.chain_coe_cons] using ⟨hab, hba⟩

/-- A document with a ring of three imports that runs against the order of its modules, and with
two modules beside it that import each other. -/
def Document.rings : Document where
  modules :=
    [⟨"a", [⟨"import", some "c"⟩]⟩, ⟨"b", [⟨"import", some "a"⟩]⟩, ⟨"c", [⟨"import", some "b"⟩]⟩,
     ⟨"left", [⟨"import", some "right"⟩]⟩, ⟨"right", [⟨"import", some "left"⟩]⟩]
  declarations := []

/-- The graph of the rings. -/
def Document.ringsGraph : Graph where
  modules :=
    [⟨⟨1⟩, "a", [⟨"import", some "c"⟩]⟩, ⟨⟨2⟩, "b", [⟨"import", some "a"⟩]⟩,
     ⟨⟨3⟩, "c", [⟨"import", some "b"⟩]⟩, ⟨⟨4⟩, "left", [⟨"import", some "right"⟩]⟩,
     ⟨⟨5⟩, "right", [⟨"import", some "left"⟩]⟩]
  declarations := []

theorem Document.ringsGraph_built : ringsGraph.Built :=
  built_of_toGraph (show rings.toGraph = .ok ringsGraph from rfl)

/-- The plan of the rings warns of both. -/
theorem Document.ringsGraph_warnings :
    ∃ plan, (Run.ofGraph ringsGraph 64 false).plan = .ok plan ∧
      plan.importsOf ⟨1⟩ = [⟨⟨3⟩, .explicit⟩] ∧
      plan.warnings = [.importCycle ["a", "b", "c"], .importCycle ["left", "right"]] :=
  ⟨_, rfl, rfl, by cbv⟩

/-- The two modules of the rings that import each other are warned of as they stand. -/
theorem Document.ringsGraph_pair :
    ∃ plan, (Run.ofGraph ringsGraph 64 false).plan = .ok plan ∧
      ∃ members : List ModuleId, ["left", "right"] = members.map ringsGraph.moduleName ∧
        (members : Cycle ModuleId).Chain plan.Lists := by
  obtain ⟨plan, hplan, -, hwarnings⟩ := ringsGraph_warnings
  have hwarned : .importCycle ["left", "right"] ∈ plan.warnings := by simp [hwarnings]
  obtain ⟨members, hnames, -, -, -, -, hpair⟩ :=
    Plan.import_cycle_warnings ringsGraph_built hplan hwarned
  have hlength : members.length = 2 := by simpa using (congrArg List.length hnames).symm
  exact ⟨plan, hplan, members, hnames, hpair hlength⟩

/-- **A warning is no path of imports**: of the ring it says first `a` and then `b`, but `a` does
not import `b`. -/
theorem Document.ringsGraph_no_path :
    ringsGraph.Built ∧ ∃ plan, (Run.ofGraph ringsGraph 64 false).plan = .ok plan ∧
      .importCycle ([⟨1⟩, ⟨2⟩, ⟨3⟩].map ringsGraph.moduleName) ∈ plan.warnings ∧
      ¬ plan.Lists ⟨1⟩ ⟨2⟩ := by
  obtain ⟨plan, hplan, himports, hwarnings⟩ := ringsGraph_warnings
  have hnames : [⟨1⟩, ⟨2⟩, ⟨3⟩].map ringsGraph.moduleName = ["a", "b", "c"] := rfl
  refine ⟨ringsGraph_built, plan, hplan, by simp [hnames, hwarnings], ?_⟩
  rintro ⟨listed, hlisted, hsecond⟩
  rw [himports] at hlisted
  obtain rfl := List.mem_singleton.1 hlisted
  cases hsecond

end Exposure
