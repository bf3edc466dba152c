import Exposure.Proofs.Plan.Imports
import Exposure.Proofs.Plan.Levels
import Exposure.Proofs.Plan.Validity

/-!
# Hand-written code in plans

A plan keeps the hand-written code of a module **whole**: every `manual` mark of the module's scope
and of the name scopes and records declared in it comes to one block, in this order, with what it
calls for. And the code is **covered**: whatever other module of the run it calls for, the generated
module imports explicitly (`Plan.manual_code_whole_and_covered`).

The check of what is called for compares names with the names that are asked for, while import lists
hold modules. Nothing gets lost in between: of the names that are asked for, a list leaves out the
module's own, those of no module of the run, and repetitions, and the check passes over the former
two.
-/

namespace Exposure

namespace Graph

variable {graph : Graph} {depth : Nat} {byDefault : Bool} {module : Module}

/-- Where marks read, `manual` marks stand on name scopes and records only. -/
theorem payloads_manual_eq_nil (hread : graph.MarksRead) {declaration : Declaration}
    (hmem : declaration ∈ graph.declarations)
    (hkind : ¬ (declaration.kind = .scope ∨ declaration.kind = .record)) :
    Marks.payloads declaration.marks .manual = [] := by
  refine List.eq_nil_iff_forall_not_mem.2 fun code hcode ↦ hkind ?_
  simpa [Directive.allowedOn] using hread.allowedOn_of_mem_payloads hmem hcode

/-- **The hand-written code of a module** is what its marks hold, in order. -/
theorem manualBlocks_ledger (hgraph : graph.WellFormed) (horderly : graph.Orderly depth)
    (hemittable : ∀ target ∈ graph.exposed depth byDefault,
      graph.Emittable depth byDefault target) (hmodule : module ∈ graph.modules) :
    (graph.ledger depth byDefault).manualBlocks module.id =
      (Marks.payloads module.marks .manual).map (.ofCode module.name) ++
        ((graph.members module.id).filter fun declaration ↦
          declaration.kind = .scope ∨ declaration.kind = .record).flatMap fun declaration ↦
            (Marks.payloads declaration.marks .manual).map (.ofCode declaration.name) := by
  have hread := horderly.marksRead
  have hscope : (Visit.scope module).legible .manual = Marks.payloads module.marks .manual :=
    Visit.legible_of_reads (hread.modules module hmodule)
  rw [← fullLedger_ofRun hgraph horderly hemittable,
    Survey.manualBlocks_ofRun hgraph depth byDefault hmodule, levels, List.flatMap_cons,
    List.flatMap_map, flatMap_filter, Visit.blocks, hscope]
  congr 1
  refine List.flatMap_congr fun declaration hmember ↦ ?_
  have hmem : declaration ∈ graph.declarations := (List.mem_filter.1 hmember).1
  have hmember : (Visit.member declaration).legible .manual =
      Marks.payloads declaration.marks .manual :=
    Visit.legible_of_reads (hread.declarations declaration hmem)
  rw [Visit.blocks, hmember]
  by_cases hkind : declaration.kind = .scope ∨ declaration.kind = .record
  · rw [if_pos (decide_eq_true hkind)]
    rfl
  · rw [if_neg (by simpa using hkind), payloads_manual_eq_nil hread hmem hkind]
    rfl

end Graph

namespace Plan.Decided

variable {graph : Graph} {depth : Nat} {byDefault : Bool} {plan : Plan}

/-- **Hand-written code is covered**: it calls for its own module, for modules outside the run, and
for such as its module imports explicitly. -/
theorem covers (h : plan.Decided graph depth byDefault) (hgraph : graph.WellFormed)
    (hvalid : graph.Valid depth) {module : Module} (hmodule : module ∈ graph.modules)
    {called : String} (hcalls : graph.CallsFor module called) :
    called = module.name ∨ ¬ graph.containsModule called ∨
      ∃ other ∈ graph.modules, other.name = called ∧
        ⟨other.id, .explicit⟩ ∈ plan.importsOf module.id := by
  rcases hvalid.calls_asked module hmodule called hcalls with hself | hunknown | hasked
  · exact .inl hself
  · exact .inr (.inl hunknown)
  · -- A name that is asked for and found is the name of a module; if that is another, it is listed.
    by_cases hself : called = module.name
    · exact .inl hself
    · obtain ⟨other, hfound⟩ :=
        Option.isSome_iff_exists.1 (hvalid.imports_known module hmodule called hasked)
      obtain ⟨hother, rfl⟩ := hgraph.moduleNamed_eq_some.1 hfound
      refine .inr (.inr ⟨other, hother, rfl, (h.explicit_mem_importsOf hgraph hmodule).2
        ⟨fun hid ↦ hself ?_, other, hother, rfl, hasked⟩⟩)
      rw [hgraph.module_unique hother hmodule hid]

end Plan.Decided

/-- **Hand-written code is kept whole and covered.** A plan has for each module the blocks of its
own scope and those of the name scopes and records in it, in source order; and whatever other module
of the run a block calls for is imported explicitly. -/
theorem Plan.manual_code_whole_and_covered {graph : Graph} (h : graph.Built) {depth : Nat}
    {byDefault : Bool} {plan : Plan}
    (hplan : (Run.ofGraph graph depth byDefault).plan = .ok plan) {module : Module}
    (hmodule : module ∈ graph.modules) :
    ∃ planned, plan.module? module.id = some planned ∧
      planned.manualBlocks =
        (Marks.payloads module.marks .manual).map
            (fun code ↦ ⟨module.name, code, Import.calledModules code⟩) ++
          ((graph.members module.id).filter fun declaration ↦
            declaration.kind = .scope ∨ declaration.kind = .record).flatMap (fun declaration ↦
              (Marks.payloads declaration.marks .manual).map fun code ↦
                ⟨declaration.name, code, Import.calledModules code⟩) ∧
      ∀ block ∈ planned.manualBlocks, ∀ called ∈ block.references,
        called = module.name ∨ ¬ graph.containsModule called ∨
          ∃ other ∈ graph.modules, other.name = called ∧
            ⟨other.id, .explicit⟩ ∈ planned.imports := by
  have hgraph := h.wellFormed
  have hdecided := Run.decided_of_plan hgraph hplan
  have hvalid := (Graph.clean_iff_valid hgraph).1 (Plan.exists_ofSurvey_eq_ok.1 ⟨plan, hplan⟩)
  have hplanned := hdecided.module?_eq module.id
  rw [hgraph.module?_eq_some.2 ⟨hmodule, rfl⟩, Option.map_some] at hplanned
  refine ⟨_, hplanned, Graph.manualBlocks_ledger hgraph hdecided.orderly hdecided.emittable hmodule,
    fun block hblock called hcalled ↦ ?_⟩
  have hcalls : graph.CallsFor module called :=
    (Graph.manual_mem_ledger hgraph hdecided.orderly.marksRead hmodule).1
      ⟨block, Import.Ledger.mem_manualBlocks.1 hblock, hcalled⟩
  rw [← hdecided.importsOf_eq hgraph hmodule]
  exact hdecided.covers hgraph hvalid hmodule hcalls

/-- A document with hand-written code at a module, at a record and at a name scope in it; the code
calls for another module, for one outside the run, and for its own. -/
def Document.woven : Document where
  modules :=
    [⟨"core", []⟩,
     ⟨"api", [⟨"manual", some " import(\"core\"); "⟩, ⟨"import", some "core"⟩]⟩]
  declarations :=
    [⟨"Point", "struct", "api", none, none, [⟨"manual", some "import(\"vendor\");"⟩]⟩,
     ⟨"glue", "namespace", "api", none, none, [⟨"manual", some "import(\"api\");"⟩]⟩]

/-- The graph of the woven document. -/
def Document.wovenGraph : Graph where
  modules :=
    [⟨⟨1⟩, "core", []⟩,
     ⟨⟨2⟩, "api", [⟨"manual", some " import(\"core\"); "⟩, ⟨"import", some "core"⟩]⟩]
  declarations :=
    [⟨⟨1⟩, "Point", .record, ⟨2⟩, none, none, [⟨"manual", some "import(\"vendor\");"⟩]⟩,
     ⟨⟨2⟩, "glue", .scope, ⟨2⟩, none, none, [⟨"manual", some "import(\"api\");"⟩]⟩]

/-- The interface of the woven document keeps its three blocks, and imports the core that the first
of them calls for. -/
theorem Document.wovenGraph_blocks :
    ∃ plan planned, (Run.ofGraph wovenGraph 64 false).plan = .ok plan ∧
      plan.module? ⟨2⟩ = some planned ∧
      planned.manualBlocks =
        [⟨"api", "import(\"core\");", ["core"]⟩, ⟨"Point", "import(\"vendor\");", ["vendor"]⟩,
         ⟨"glue", "import(\"api\");", ["api"]⟩] ∧
      ⟨⟨1⟩, .explicit⟩ ∈ planned.imports := by
  have hbuilt : wovenGraph.Built :=
    built_of_toGraph (show woven.toGraph = .ok wovenGraph from rfl)
  obtain ⟨plan, hplan⟩ : ∃ plan, (Run.ofGraph wovenGraph 64 false).plan = .ok plan := ⟨_, rfl⟩
  have hapi : (⟨⟨2⟩, "api", [⟨"manual", some " import(\"core\"); "⟩, ⟨"import", some "core"⟩]⟩ :
      Module) ∈ wovenGraph.modules := by simp [wovenGraph]
  obtain ⟨planned, hplanned, hblocks, hcovered⟩ :=
    Plan.manual_code_whole_and_covered hbuilt hplan hapi
  have hthree : planned.manualBlocks =
      [⟨"api", "import(\"core\");", ["core"]⟩, ⟨"Point", "import(\"vendor\");", ["vendor"]⟩,
       ⟨"glue", "import(\"api\");", ["api"]⟩] := by
    rw [hblocks]
    decide +kernel
  refine ⟨plan, planned, hplan, hplanned, hthree, ?_⟩
  rcases hcovered ⟨"api", "import(\"core\");", ["core"]⟩ (by simp [hthree]) "core" (by simp) with
    hself | hunknown | ⟨other, hother, hname, hlisted⟩
  · simp at hself
  · exact absurd (by decide +kernel) hunknown
  · simp only [wovenGraph, List.mem_cons, List.not_mem_nil, or_false] at hother
    rcases hother with rfl | rfl
    · exact hlisted
    · simp at hname

end Exposure
