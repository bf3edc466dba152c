import Exposure.Proofs.Plan.Levels
import Exposure.Proofs.Plan.Stages

/-!
# Accusations of missing imports

A run accuses a module of a missing import if its hand-written code calls for another module of the
run that it does not ask for. Only levels whose marks all read have a say in this, on either side
(`Run.missing_imports_told_by_what_reads`). So an accusation is true where whatever asks for the
module reads; but one bad mark beside an `import` mark is enough for the run not to see the import,
and for it to accuse a module that does ask for what it calls for
(`Document.accusedGraph_falsely_accused`).
-/

namespace Exposure

namespace Graph

/-- A module asks for another at a level whose marks all read. -/
def AsksLegibly (graph : Graph) (module : Module) (name : String) : Prop :=
  ∃ level ∈ graph.levels module, name ∈ level.legible .importModule

/-- Hand-written code at a level whose marks all read calls for a module. -/
def CallsLegibly (graph : Graph) (module : Module) (name : String) : Prop :=
  ∃ level ∈ graph.levels module, ∃ code ∈ level.legible .manual, name ∈ Import.calledModules code

variable {graph : Graph} {module : Module} {name : String}

/-- Who asks for a module does so at one of its levels. -/
theorem AsksFor.exists_level (h : graph.AsksFor module name) :
    ∃ level ∈ graph.levels module, name ∈ Marks.payloads level.marks .importModule := by
  rcases h with hname | ⟨scope, hscope, -, hid, hname⟩
  · exact ⟨.scope module, mem_levels.2 (.inl rfl), hname⟩
  · exact ⟨.member scope, mem_levels.2 (.inr ⟨scope, hscope, hid, rfl⟩), hname⟩

/-- **Where the levels that ask for a module read, it is asked for legibly.** -/
theorem AsksFor.asksLegibly (h : graph.AsksFor module name)
    (hreads : ∀ level ∈ graph.levels module,
      name ∈ Marks.payloads level.marks .importModule → level.Reads) :
    graph.AsksLegibly module name := by
  obtain ⟨level, hlevel, hname⟩ := h.exists_level
  exact ⟨level, hlevel, Visit.mem_legible.2 ⟨hreads level hlevel hname, hname⟩⟩

/-- **Whom a run accuses**, and of what. -/
theorem missingImportDeclaration_mem_problems (hgraph : graph.WellFormed) (depth : Nat)
    (byDefault : Bool) {called : String} :
    .missingImportDeclaration name called ∈ (Run.ofGraph graph depth byDefault).problems ↔
      ∃ module ∈ graph.modules, module.name = name ∧ graph.CallsLegibly module called ∧
        called ≠ module.name ∧ graph.containsModule called ∧
          ¬ graph.AsksLegibly module called := by
  rw [Run.mem_problems_iff_mem_problemsAt hgraph, Problem.stage, Run.problemsAt, Run.graph_ofGraph,
    Import.Ledger.missingImportDeclaration_mem_settle]
  refine exists_congr fun module ↦ and_congr_right fun hmodule ↦ ?_
  rw [Survey.manualBlocks_ofRun hgraph depth byDefault hmodule,
    Survey.requested_ofRun hgraph depth byDefault hmodule]
  have hcalls : (∃ block ∈ (graph.levels module).flatMap (·.blocks), called ∈ block.references) ↔
      graph.CallsLegibly module called := by
    constructor
    · rintro ⟨block, hblock, hcalled⟩
      obtain ⟨level, hlevel, hblock⟩ := List.mem_flatMap.1 hblock
      obtain ⟨code, hcode, rfl⟩ := List.mem_map.1 hblock
      exact ⟨level, hlevel, code, hcode, hcalled⟩
    · rintro ⟨level, hlevel, code, hcode, hcalled⟩
      exact ⟨_, List.mem_flatMap.2 ⟨level, hlevel, List.mem_map.2 ⟨code, hcode, rfl⟩⟩, hcalled⟩
  rw [hcalls, List.mem_flatMap]
  rfl

end Graph

/-- **Who is accused of a missing import**: the modules whose hand-written code legibly calls for
another module of the run that they do not legibly ask for. Where the levels that ask for the module
read, an accusation is true: there are none. -/
theorem Run.missing_imports_told_by_what_reads {graph : Graph} (h : graph.Built) (depth : Nat)
    (byDefault : Bool) :
    (∀ name called,
      .missingImportDeclaration name called ∈ (Run.ofGraph graph depth byDefault).problems ↔
        ∃ module ∈ graph.modules, module.name = name ∧ graph.CallsLegibly module called ∧
          called ≠ module.name ∧ graph.containsModule called ∧
            ¬ graph.AsksLegibly module called) ∧
    ∀ module ∈ graph.modules, ∀ called,
      .missingImportDeclaration module.name called ∈ (Run.ofGraph graph depth byDefault).problems →
      (∀ level ∈ graph.levels module,
        called ∈ Marks.payloads level.marks .importModule → level.Reads) →
      ¬ graph.AsksFor module called := by
  have hgraph := h.wellFormed
  refine ⟨fun name called ↦ Graph.missingImportDeclaration_mem_problems hgraph depth byDefault,
    fun module hmodule called haccused hreads hasks ↦ ?_⟩
  obtain ⟨other, hother, hname, -, -, -, hunasked⟩ :=
    (Graph.missingImportDeclaration_mem_problems hgraph depth byDefault).1 haccused
  have hsame : other = module :=
    List.inj_on_of_nodup_map hgraph.module_names hother hmodule hname
  exact hunasked (hsame ▸ hasks.asksLegibly hreads)

/-- A document of two modules with the same hand-written code. The interface asks for the module
that the code calls for, with a bad mark beside; the tools do not ask for it. -/
def Document.accused : Document where
  modules :=
    [⟨"core", []⟩, ⟨"api", [⟨"import", some "core"⟩, ⟨"nonsense", none⟩]⟩, ⟨"tools", []⟩]
  declarations :=
    [⟨"glue", "namespace", "api", none, none, [⟨"manual", some "import(\"core\");"⟩]⟩,
     ⟨"wire", "namespace", "tools", none, none, [⟨"manual", some "import(\"core\");"⟩]⟩]

/-- The graph of the accused. -/
def Document.accusedGraph : Graph where
  modules :=
    [⟨⟨1⟩, "core", []⟩, ⟨⟨2⟩, "api", [⟨"import", some "core"⟩, ⟨"nonsense", none⟩]⟩,
     ⟨⟨3⟩, "tools", []⟩]
  declarations :=
    [⟨⟨1⟩, "glue", .scope, ⟨2⟩, none, none, [⟨"manual", some "import(\"core\");"⟩]⟩,
     ⟨⟨2⟩, "wire", .scope, ⟨3⟩, none, none, [⟨"manual", some "import(\"core\");"⟩]⟩]

theorem Document.accusedGraph_built : accusedGraph.Built :=
  built_of_toGraph (show accused.toGraph = .ok accusedGraph from rfl)

/-- The tools are accused and do not ask for the core. -/
theorem Document.accusedGraph_rightly_accused :
    .missingImportDeclaration "tools" "core" ∈ (Run.ofGraph accusedGraph 64 false).problems ∧
      ¬ accusedGraph.AsksFor ⟨⟨3⟩, "tools", []⟩ "core" := by
  have haccused : .missingImportDeclaration "tools" "core" ∈
      (Run.ofGraph accusedGraph 64 false).problems := by decide +kernel
  have htools : (⟨⟨3⟩, "tools", []⟩ : Module) ∈ accusedGraph.modules := by simp [accusedGraph]
  obtain ⟨-, htrue⟩ := Run.missing_imports_told_by_what_reads accusedGraph_built 64 false
  refine ⟨haccused, htrue _ htools "core" haccused fun level hlevel hasks ↦ ?_⟩
  have hlevels : accusedGraph.levels ⟨⟨3⟩, "tools", []⟩ =
      [.scope ⟨⟨3⟩, "tools", []⟩, .member ⟨⟨2⟩, "wire", .scope, ⟨3⟩, none, none,
        [⟨"manual", some "import(\"core\");"⟩]⟩] := rfl
  rw [hlevels] at hlevel
  simp only [List.mem_cons, List.not_mem_nil, or_false] at hlevel
  rcases hlevel with rfl | rfl
  · exact absurd hasks (by decide +kernel)
  · exact absurd hasks (by decide +kernel)

/-- **A false accusation**: the interface asks for the core and is accused of not asking for it. -/
theorem Document.accusedGraph_falsely_accused :
    accusedGraph.Built ∧
      .missingImportDeclaration "api" "core" ∈ (Run.ofGraph accusedGraph 64 false).problems ∧
      ∃ module ∈ accusedGraph.modules, module.name = "api" ∧
        accusedGraph.AsksFor module "core" := by
  refine ⟨accusedGraph_built, by decide +kernel,
    ⟨⟨2⟩, "api", [⟨"import", some "core"⟩, ⟨"nonsense", none⟩]⟩, by simp [accusedGraph], rfl,
    .inl (by decide +kernel)⟩

end Exposure
