import Exposure.Proofs.Plan.Asking

/-!
# Visits

A survey is a pass over **visits**: the scope of each module, then the declarations of that
module. This file says what one visit adds and, by induction on the visits, what a whole pass
comes to.

* To the ledger a visit adds the records of one level of scope, which depend on the level alone
  (`Survey.ledger_make`). So the ledger of a pass is the concatenation of the records of its
  visits (`Survey.ledger_foldl_make`).
* Problems are only ever added. A visit adds none exactly if nothing is wrong with what is
  visited (`Survey.problems_make_eq_nil`), which can be told from the graph (`Visit.InOrder`);
  a pass comes to no problem exactly if every visit is in order.

What a pass makes of the slots needs more and is in `Exposure.Proofs.Plan.Slots`.
-/

namespace Exposure

/-! ### Primitive steps -/

namespace Survey

@[simp]
theorem problems_report (survey : Survey) (problems : List Problem) :
    (survey.report problems).problems = survey.problems ++ problems := rfl

@[simp]
theorem ledger_report (survey : Survey) (problems : List Problem) :
    (survey.report problems).ledger = survey.ledger := rfl

@[simp]
theorem slots_report (survey : Survey) (problems : List Problem) :
    (survey.report problems).slots = survey.slots := rfl

@[simp]
theorem ledger_reportChain (survey : Survey) (problem : Problem) :
    (survey.reportChain problem).ledger = survey.ledger := by
  unfold reportChain
  split <;> rfl

@[simp]
theorem slots_reportChain (survey : Survey) (problem : Problem) :
    (survey.reportChain problem).slots = survey.slots := by
  unfold reportChain
  split <;> rfl

/-- After the report of a chain there is a problem, be it an old one. -/
theorem problems_reportChain_ne_nil (survey : Survey) (problem : Problem) :
    (survey.reportChain problem).problems ≠ [] := by
  unfold reportChain
  split
  · rename_i hmem
    exact List.ne_nil_of_mem hmem
  · simp

@[simp]
theorem problems_expose (survey : Survey) (run : Run) (target : Declaration) :
    (survey.expose run target).problems = survey.problems := rfl

@[simp]
theorem ledger_expose (survey : Survey) (run : Run) (target : Declaration) :
    (survey.expose run target).ledger = survey.ledger := rfl

@[simp]
theorem problems_request (survey : Survey) (run : Run) (target : Declaration)
    (asked : Alias.Request) : (survey.request run target asked).problems = survey.problems := rfl

@[simp]
theorem ledger_request (survey : Survey) (run : Run) (target : Declaration)
    (asked : Alias.Request) : (survey.request run target asked).ledger = survey.ledger := rfl

@[simp]
theorem problems_recordScope (survey : Survey) (module : ModuleId) (owner : String)
    (annotations : Annotations) :
    (survey.recordScope module owner annotations).problems = survey.problems := rfl

@[simp]
theorem slots_recordScope (survey : Survey) (module : ModuleId) (owner : String)
    (annotations : Annotations) :
    (survey.recordScope module owner annotations).slots = survey.slots := rfl

@[simp]
theorem ledger_reportKnown (survey : Survey) (run : Run) (declaration : Declaration) :
    (survey.reportKnown run declaration).ledger = survey.ledger := by
  unfold reportKnown
  dsimp only
  split <;> simp

@[simp]
theorem slots_reportKnown (survey : Survey) (run : Run) (declaration : Declaration) :
    (survey.reportKnown run declaration).slots = survey.slots := by
  unfold reportKnown
  dsimp only
  split <;> simp

@[simp]
theorem ledger_visitBinding (survey : Survey) (run : Run) (declaration : Declaration)
    (annotations : Annotations) (target : Declaration) :
    (survey.visitBinding run declaration annotations target).ledger = survey.ledger := by
  unfold visitBinding
  dsimp only
  split
  · rfl
  · split
    · rfl
    · split <;> rfl

@[simp]
theorem ledger_visitAlias (survey : Survey) (run : Run) (declaration : Declaration)
    (annotations : Annotations) :
    (survey.visitAlias run declaration annotations).ledger = survey.ledger := by
  unfold visitAlias
  split
  · rfl
  · split
    · split
      · exact ledger_visitBinding ..
      · rfl
    · rfl

end Survey

/-! ### Visits and passes -/

/-- What a survey visits. -/
inductive Visit where
  /-- The scope of a module. -/
  | scope (module : Module)
  /-- A declaration that belongs to a module. -/
  | member (declaration : Declaration)

/-- Makes one visit. -/
def Survey.make (run : Run) (survey : Survey) : Visit → Survey
  | .scope module => survey.visitModule run module
  | .member declaration => survey.visit run declaration

/-- The visits of a graph in traversal order. -/
def Graph.visits (graph : Graph) : List Visit :=
  graph.modules.flatMap fun module ↦
    .scope module :: (graph.members module.id).map .member

/-- The survey of a run is the pass over its visits. -/
theorem Survey.ofRun_eq (run : Run) :
    Survey.ofRun run = run.graph.visits.foldl (Survey.make run) .empty := by
  simp only [ofRun, Graph.visits, List.foldl_flatMap, List.foldl_cons, List.foldl_map, make]

/-! ### The ledger of a pass -/

/-- The records of one level of scope. -/
def Annotations.records (module : ModuleId) (owner : String) (annotations : Annotations) :
    Import.Ledger :=
  annotations.imports.map (.request module) ++
    annotations.manualBlocks.map fun code ↦ .manual module (.ofCode owner code)

/-- The records of a visit: none of aliases, and none where the marks do not read. -/
def Visit.records (run : Run) : Visit → Import.Ledger
  | .scope module =>
    (run.extraction.store.getModule? module.id).elim [] (·.records module.id module.name)
  | .member declaration =>
    if declaration.isAlias then []
    else (run.extraction.store.get? declaration.id).elim []
      (·.records declaration.module declaration.name)

namespace Survey

@[simp]
theorem ledger_recordScope (survey : Survey) (module : ModuleId) (owner : String)
    (annotations : Annotations) :
    (survey.recordScope module owner annotations).ledger =
      survey.ledger ++ annotations.records module owner :=
  List.append_assoc _ _ _

/-- **A visit adds its records to the ledger.** -/
theorem ledger_make (run : Run) (survey : Survey) (visit : Visit) :
    (survey.make run visit).ledger = survey.ledger ++ visit.records run := by
  cases visit with
  | scope module =>
    rw [make, visitModule, Visit.records]
    rcases run.extraction.store.getModule? module.id with - | annotations
    · simp
    · dsimp only
      split_ifs <;> simp
  | member declaration =>
    rw [make, visit, Visit.records, Declaration.isAlias]
    rcases run.extraction.store.get? declaration.id with - | annotations
    · simp
    · cases hkind : declaration.kind with
      | typeAlias => simp
      | scope =>
        simp only [visitScope]
        split_ifs <;> simp_all
      | record | function | enumeration =>
        simp only [visitBindable]
        split <;> (try split_ifs) <;> simp_all

/-- The ledger of a pass is made of the records of its visits. -/
theorem ledger_foldl_make (run : Run) (survey : Survey) (visits : List Visit) :
    (visits.foldl (make run) survey).ledger =
      survey.ledger ++ visits.flatMap (·.records run) := by
  induction visits generalizing survey with
  | nil => simp
  | cons visit visits ih =>
    rw [List.foldl_cons, ih, ledger_make, List.flatMap_cons, List.append_assoc]

/-! ### The problems of one visit -/

theorem problems_reportKnown_eq_nil {run : Run} {survey : Survey} {declaration : Declaration} :
    (survey.reportKnown run declaration).problems = [] ↔
      survey.problems = [] ∧
        (run.extraction.declarationProblems.get? declaration.id).getD [] = [] ∧
        ∀ problem, run.chains.get? declaration.id ≠ some (.error problem) := by
  unfold reportKnown
  dsimp only
  split
  · rename_i problem hchain
    constructor
    · exact fun h ↦ absurd h (problems_reportChain_ne_nil _ _)
    · exact fun h ↦ absurd hchain (h.2.2 problem)
  · rename_i hchain
    rw [problems_report, List.append_eq_nil_iff]
    exact ⟨fun h ↦ ⟨h.1, h.2, hchain⟩, fun h ↦ ⟨h.1, h.2.1⟩⟩

theorem problems_visitScope_eq_nil {survey : Survey} {declaration : Declaration}
    {annotations : Annotations} :
    (survey.visitScope declaration annotations).problems = [] ↔
      survey.problems = [] ∧ annotations.standing ≠ .conflict := by
  unfold visitScope
  dsimp only
  split <;> simp_all

theorem problems_visitBindable_eq_nil {run : Run} {survey : Survey} {declaration : Declaration}
    {annotations : Annotations} :
    (survey.visitBindable run declaration annotations).problems = [] ↔
      survey.problems = [] ∧ annotations.standing ≠ .conflict := by
  unfold visitBindable
  dsimp only
  split
  · simp_all
  · simp_all
  · split <;> simp_all
  · simp_all

theorem problems_visitBinding_eq_nil {run : Run} {survey : Survey} {declaration : Declaration}
    {annotations : Annotations} {target : Declaration} :
    (survey.visitBinding run declaration annotations target).problems = [] ↔
      survey.problems = [] ∧ (annotations.standing ≠ .hidden →
        ∀ name, emissionSite run declaration annotations ≠ .error name) := by
  unfold visitBinding
  dsimp only
  split
  · simp_all
  · split
    · rename_i hhidden _ name hsite
      simp only [problems_report, List.append_eq_nil_iff, List.cons_ne_nil, and_false, false_iff]
      exact fun h ↦ h.2 hhidden name hsite
    · rename_i site hsite
      split <;> simp [hsite]

theorem problems_visitAlias_eq_nil {run : Run} {survey : Survey} {declaration : Declaration}
    {annotations : Annotations} :
    (survey.visitAlias run declaration annotations).problems = [] ↔
      survey.problems = [] ∧ annotations.standing ≠ .conflict ∧
        ∀ chain, run.chains.get? declaration.id = some (.ok chain) →
          chain.target.kind.isBindable = true → annotations.standing ≠ .hidden →
            ∀ name, emissionSite run declaration annotations ≠ .error name := by
  unfold visitAlias
  split
  · rename_i hconflict
    simp [hconflict]
  · rename_i hconflict
    split
    · rename_i chain hchain
      split
      · rename_i hbindable
        rw [problems_visitBinding_eq_nil]
        refine and_congr_right fun _ ↦ ⟨fun h ↦ ⟨hconflict, ?_⟩, fun h ↦ h.2 chain hchain hbindable⟩
        rintro other hother -
        obtain rfl := Except.ok.inj (Option.some.inj (hchain.symm.trans hother))
        exact h
      · rename_i hbindable
        refine ⟨fun h ↦ ⟨h, hconflict, ?_⟩, fun h ↦ h.1⟩
        rintro other hother hbindable'
        obtain rfl := Except.ok.inj (Option.some.inj (hchain.symm.trans hother))
        exact absurd hbindable' hbindable
    · rename_i hchain
      exact ⟨fun h ↦ ⟨h, hconflict, fun chain hother ↦ absurd hother (hchain chain)⟩, fun h ↦ h.1⟩

/-- A site is unknown exactly if a module is named that the run does not have. -/
theorem emissionSite_eq_error {run : Run} {declaration : Declaration}
    {annotations : Annotations} {name : String} :
    emissionSite run declaration annotations = .error name ↔
      annotations.destination? = some (.named name) ∧ run.graph.containsModule name = false := by
  unfold emissionSite
  rcases annotations.destination? with - | - | other
  · simp
  · simp
  · dsimp only
    split
    · rename_i module hmodule
      constructor
      · intro h
        cases h
      · rintro ⟨hname, hunknown⟩
        cases hname
        simp [Graph.containsModule, hmodule] at hunknown
    · rename_i hmodule
      constructor
      · intro h
        cases h
        exact ⟨rfl, by simp [Graph.containsModule, hmodule]⟩
      · rintro ⟨hname, -⟩
        cases hname
        rfl

end Survey

/-! ### Visits in order -/

/-- **Nothing is wrong with a declaration**: its marks read and do not conflict, and if it is an
alias its chain ends, in a bindable target only with an emission site the run has. -/
structure Graph.InOrder (graph : Graph) (depth : Nat) (declaration : Declaration) : Prop where
  reads : ∀ mark ∈ declaration.marks,
    ∃ item, mark.read declaration.name (.declaration declaration.kind) = .ok item
  resolves : declaration.isAlias → ∃ chain, Alias.resolve graph depth declaration = .ok chain
  agrees : ¬ Marks.conflict declaration.marks
  site_known : declaration.isAlias → ¬ declaration.carries .hidden → ∀ target,
    graph.target? depth declaration = some target → target.kind.isBindable → ∀ name,
      Marks.destination? declaration.marks = some (.named name) → graph.containsModule name

/-- With what is no alias nothing is wrong if its marks read and do not conflict. -/
theorem Graph.inOrder_iff_of_not_isAlias {graph : Graph} {depth : Nat} {declaration : Declaration}
    (hother : ¬ declaration.isAlias) :
    graph.InOrder depth declaration ↔
      (∀ mark ∈ declaration.marks,
        ∃ item, mark.read declaration.name (.declaration declaration.kind) = .ok item) ∧
        ¬ Marks.conflict declaration.marks :=
  ⟨fun h ↦ ⟨h.reads, h.agrees⟩, fun h ↦
    ⟨h.1, fun halias ↦ absurd halias hother, h.2, fun halias ↦ absurd halias hother⟩⟩

/-- **Nothing is wrong with the scope of a module**: its marks read and do not conflict. -/
structure Module.InOrder (module : Module) : Prop where
  reads : ∀ mark ∈ module.marks, ∃ item, mark.read module.name .moduleScope = .ok item
  agrees : ¬ Marks.conflict module.marks

/-- **Nothing is wrong with any module scope and any declaration** of a graph. -/
structure Graph.Orderly (graph : Graph) (depth : Nat) : Prop where
  modules : ∀ module ∈ graph.modules, module.InOrder
  declarations : ∀ declaration ∈ graph.declarations, graph.InOrder depth declaration

theorem Graph.Orderly.marksRead {graph : Graph} {depth : Nat} (h : graph.Orderly depth) :
    graph.MarksRead :=
  ⟨fun declaration hmem ↦ (h.declarations declaration hmem).reads,
    fun module hmem ↦ (h.modules module hmem).reads⟩

namespace Survey

variable {graph : Graph} (hgraph : graph.WellFormed) (depth : Nat) (byDefault : Bool)
include hgraph

/-- What a run knows of the chain of a declaration. -/
theorem get?_chains_ofGraph {declaration : Declaration}
    (hmem : declaration ∈ graph.declarations) :
    (Run.ofGraph graph depth byDefault).chains.get? declaration.id =
      if declaration.isAlias then some (Alias.resolve graph depth declaration) else none := by
  rw [Run.chains_ofGraph]
  split
  · rename_i halias
    exact Alias.get?_resolveAll_of_isAlias hgraph depth hmem halias
  · rename_i halias
    exact Alias.get?_resolveAll_of_not_isAlias hgraph depth hmem (by simpa using halias)

/-- What is known of a declaration before its annotations are seen is a problem exactly if its
marks do not read or its chain does not end. -/
theorem problems_reportKnown_ofGraph (survey : Survey) {declaration : Declaration}
    (hmem : declaration ∈ graph.declarations) :
    (survey.reportKnown (Run.ofGraph graph depth byDefault) declaration).problems = [] ↔
      survey.problems = [] ∧ (∃ annotations, declaration.annotations = .ok annotations) ∧
        (declaration.isAlias → ∃ chain, Alias.resolve graph depth declaration = .ok chain) := by
  obtain ⟨-, hproblems⟩ :=
    Prod.mk.inj (Run.atDeclaration_ofGraph hgraph depth byDefault hmem)
  rw [problems_reportKnown_eq_nil, hproblems, get?_chains_ofGraph hgraph depth byDefault hmem]
  refine and_congr_right fun _ ↦ and_congr ?_ ?_
  · rcases hread : declaration.annotations with found | annotations
    · simpa [Extraction.sides] using Annotations.ne_nil_of_read_eq_error hread
    · simp
  · rcases Alias.resolve graph depth declaration with problem | chain
    · cases declaration.isAlias <;> simp
    · simp

omit hgraph in
/-- Where marks do not conflict, a run knows the emission site of an alias exactly if it has the
module that the marks name. -/
theorem emissionSite_known_iff {declaration : Declaration} {annotations : Annotations}
    (hannotations : declaration.annotations = .ok annotations)
    (hagrees : ¬ Marks.conflict declaration.marks) :
    (∀ chain, Alias.resolve graph depth declaration = .ok chain → chain.target.kind.isBindable →
      annotations.standing ≠ .hidden →
        ∀ name, emissionSite (Run.ofGraph graph depth byDefault) declaration annotations ≠
          .error name) ↔
      (¬ declaration.carries .hidden → ∀ target, graph.target? depth declaration = some target →
        target.kind.isBindable → ∀ name,
          Marks.destination? declaration.marks = some (.named name) →
            graph.containsModule name) := by
  have hhidden : annotations.standing = .hidden ↔ declaration.carries .hidden := by
    rw [Annotations.standing_eq_hidden_of_read hannotations]
    exact and_iff_right (by simpa using hagrees)
  constructor
  · intro h hshown target htarget hbindable name hname
    obtain ⟨chain, hchain, rfl⟩ := Graph.target?_eq_some.1 htarget
    by_contra hunknown
    refine h chain hchain hbindable (fun hstanding ↦ hshown (hhidden.1 hstanding)) name ?_
    rw [emissionSite_eq_error, Annotations.destination?_of_read hannotations]
    exact ⟨hname, by simpa using hunknown⟩
  · intro h chain hchain hbindable hstanding name hsite
    rw [emissionSite_eq_error, Annotations.destination?_of_read hannotations] at hsite
    have hknown := h (fun hcarries ↦ hstanding (hhidden.2 hcarries)) chain.target
      (Graph.target?_eq_some.2 ⟨chain, hchain, rfl⟩) hbindable name hsite.1
    rw [Run.graph_ofGraph, hknown] at hsite
    cases hsite.2

/-- **The visit of a declaration adds no problem exactly if nothing is wrong with it.** -/
theorem problems_visit_eq_nil {survey : Survey} {declaration : Declaration}
    (hmem : declaration ∈ graph.declarations) :
    (survey.visit (Run.ofGraph graph depth byDefault) declaration).problems = [] ↔
      survey.problems = [] ∧ graph.InOrder depth declaration := by
  have hknown := problems_reportKnown_ofGraph hgraph depth byDefault survey hmem
  rw [visit]
  rcases hread : declaration.annotations with found | annotations
  · -- The marks do not read, so there is nothing more to visit.
    have hnone := congrArg Prod.fst (Run.atDeclaration_ofGraph hgraph depth byDefault hmem)
    rw [hread] at hnone hknown
    rw [show (Run.ofGraph graph depth byDefault).extraction.store.get? declaration.id = none
      from hnone]
    dsimp only
    rw [hknown]
    constructor
    · rintro ⟨-, ⟨annotations, ⟨⟩⟩, -⟩
    · rintro ⟨-, horder⟩
      obtain ⟨annotations, hok⟩ := Annotations.exists_read_eq_ok.2 horder.reads
      rw [Declaration.annotations, hok] at hread
      cases hread
  · have hreads := Annotations.exists_read_eq_ok.1 ⟨annotations, hread⟩
    have hconflict := Annotations.standing_eq_conflict_of_read hread
    rw [Run.get?_store_ofGraph hgraph depth byDefault hmem hread]
    -- The marks read, so of what is known beforehand only the chain is left.
    have hknown : (survey.reportKnown (Run.ofGraph graph depth byDefault) declaration).problems =
        [] ↔ survey.problems = [] ∧ (declaration.isAlias →
          ∃ chain, Alias.resolve graph depth declaration = .ok chain) := by
      rw [hknown]
      exact and_congr_right fun _ ↦ and_iff_right ⟨annotations, hread⟩
    -- Each kind has a visit of its own; only aliases have chains and sites.
    cases hkind : declaration.kind with
    | typeAlias =>
      have halias : declaration.isAlias := by simp [Declaration.isAlias, hkind]
      dsimp only
      rw [problems_visitAlias_eq_nil, hknown, get?_chains_ofGraph hgraph depth byDefault hmem,
        if_pos halias, ne_eq, hconflict]
      simp only [Option.some.injEq]
      constructor
      · rintro ⟨⟨hnil, hresolves⟩, hagrees, hsite⟩
        rw [emissionSite_known_iff depth byDefault hread hagrees] at hsite
        exact ⟨hnil, hreads, hresolves, hagrees, fun _ ↦ hsite⟩
      · rintro ⟨hnil, horder⟩
        rw [emissionSite_known_iff depth byDefault hread horder.agrees]
        exact ⟨⟨hnil, horder.resolves⟩, horder.agrees, horder.site_known halias⟩
    | scope =>
      have hother : ¬ declaration.isAlias := by simp [Declaration.isAlias, hkind]
      dsimp only
      rw [problems_visitScope_eq_nil, hknown, Graph.inOrder_iff_of_not_isAlias hother, ne_eq,
        hconflict, and_assoc]
      exact and_congr_right fun _ ↦
        ⟨fun h ↦ ⟨hreads, h.2⟩, fun h ↦ ⟨fun halias ↦ absurd halias hother, h.2⟩⟩
    | record | function | enumeration =>
      have hother : ¬ declaration.isAlias := by simp [Declaration.isAlias, hkind]
      dsimp only
      rw [problems_visitBindable_eq_nil, hknown, Graph.inOrder_iff_of_not_isAlias hother, ne_eq,
        hconflict, and_assoc]
      exact and_congr_right fun _ ↦
        ⟨fun h ↦ ⟨hreads, h.2⟩, fun h ↦ ⟨fun halias ↦ absurd halias hother, h.2⟩⟩

/-- **The visit of a module scope adds no problem exactly if nothing is wrong with it.** -/
theorem problems_visitModule_eq_nil {survey : Survey} {module : Module}
    (hmem : module ∈ graph.modules) :
    (survey.visitModule (Run.ofGraph graph depth byDefault) module).problems = [] ↔
      survey.problems = [] ∧ module.InOrder := by
  have hheld := Run.atModule_ofGraph hgraph depth byDefault hmem
  obtain ⟨hstore, hproblems⟩ := Prod.mk.inj hheld
  rw [visitModule]
  rcases hread : module.annotations with found | annotations
  · -- Marks that do not read are reported.
    rw [hread] at hstore hproblems
    rw [hstore, hproblems]
    dsimp only [Option.getD, Extraction.sides]
    rw [problems_report, List.append_eq_nil_iff]
    constructor
    · exact fun h ↦ absurd h.2 (Annotations.ne_nil_of_read_eq_error hread)
    · intro h
      obtain ⟨annotations, hok⟩ := Annotations.exists_read_eq_ok.2 h.2.reads
      rw [Module.annotations, hok] at hread
      cases hread
  · have hreads := Annotations.exists_read_eq_ok.1 ⟨annotations, hread⟩
    have hconflict := Annotations.standing_eq_conflict_of_read hread
    rw [hread] at hstore hproblems
    rw [hstore, hproblems]
    dsimp only [Option.getD, Extraction.sides]
    -- Marks that read may still contradict each other, and nothing else is a problem here.
    rw [problems_recordScope]
    split
    · rename_i hstanding
      constructor
      · intro h
        simp at h
      · exact fun h ↦ absurd (hconflict.1 hstanding) h.2.agrees
    · rename_i hstanding
      rw [problems_report, List.append_nil]
      exact ⟨fun h ↦ ⟨h, hreads, fun hc ↦ hstanding (hconflict.2 hc)⟩, fun h ↦ h.1⟩

end Survey

namespace Visit

/-- The visit is one to a module or declaration of a graph. -/
def Within (graph : Graph) : Visit → Prop
  | scope module => module ∈ graph.modules
  | member declaration => declaration ∈ graph.declarations

/-- Nothing is wrong with what is visited. -/
def InOrder (graph : Graph) (depth : Nat) : Visit → Prop
  | scope module => module.InOrder
  | member declaration => graph.InOrder depth declaration

end Visit

/-- The visits of a graph are those to its modules and declarations. -/
theorem Graph.WellFormed.mem_visits {graph : Graph} (hgraph : graph.WellFormed) {visit : Visit} :
    visit ∈ graph.visits ↔ visit.Within graph := by
  cases visit with
  | scope module => simp [visits, Visit.Within]
  | member declaration =>
    rw [Visit.Within, ← hgraph.mem_traversal, traversal, visits]
    simp

namespace Survey

variable {graph : Graph} (hgraph : graph.WellFormed) (depth : Nat) (byDefault : Bool)
include hgraph

/-- **A visit adds no problem exactly if nothing is wrong with what is visited.** -/
theorem problems_make_eq_nil {survey : Survey} {visit : Visit} (hvisit : visit.Within graph) :
    (survey.make (Run.ofGraph graph depth byDefault) visit).problems = [] ↔
      survey.problems = [] ∧ visit.InOrder graph depth := by
  cases visit with
  | scope module => exact problems_visitModule_eq_nil hgraph depth byDefault hvisit
  | member declaration => exact problems_visit_eq_nil hgraph depth byDefault hvisit

/-- A pass comes to no problem exactly if every visit is in order. -/
theorem problems_foldl_make_eq_nil {survey : Survey} {visits : List Visit}
    (hvisits : ∀ visit ∈ visits, visit.Within graph) :
    (visits.foldl (make (Run.ofGraph graph depth byDefault)) survey).problems = [] ↔
      survey.problems = [] ∧ ∀ visit ∈ visits, visit.InOrder graph depth := by
  induction visits generalizing survey with
  | nil => simp
  | cons visit visits ih =>
    obtain ⟨hvisit, hrest⟩ := List.forall_mem_cons.1 hvisits
    rw [List.foldl_cons, ih hrest, problems_make_eq_nil hgraph depth byDefault hvisit,
      List.forall_mem_cons, and_assoc]

/-- **The survey of a run comes to no problem exactly if the graph is orderly.** -/
theorem problems_ofRun_eq_nil :
    (ofRun (Run.ofGraph graph depth byDefault)).problems = [] ↔ graph.Orderly depth := by
  rw [ofRun_eq, Run.graph_ofGraph, problems_foldl_make_eq_nil hgraph depth byDefault
    fun visit hvisit ↦ hgraph.mem_visits.1 hvisit]
  constructor
  · rintro ⟨-, horder⟩
    refine ⟨fun module hmodule ↦ ?_, fun declaration hmem ↦ ?_⟩
    · exact horder (.scope module) (hgraph.mem_visits.2 hmodule)
    · exact horder (.member declaration) (hgraph.mem_visits.2 hmem)
  · intro horderly
    refine ⟨rfl, fun visit hvisit ↦ ?_⟩
    cases visit with
    | scope module => exact horderly.modules module (hgraph.mem_visits.1 hvisit)
    | member declaration => exact horderly.declarations declaration (hgraph.mem_visits.1 hvisit)

end Survey
end Exposure
