import Exposure.Proofs.Document.Built
import Exposure.Proofs.Plan.Visits

/-!
# Orders of work

Before anything is visited, a run reads the marks of declarations and of modules and walks the alias
chains. Each of these three lists may be worked through in any order (`Run.ofWork`), and none of
them comes to anything else for it (`Run.work_order_irrelevant`): each item writes under its own
identity, so that look-ups find the same (`Run.AnswersAlike`), and visits read by look-ups only.

The collections themselves do differ in the order of their pairs. So what is told of them has to be
told by identity, as is done for readings and walks, or by number, as for the problems found
(`Extraction.problemCount_process`).
-/

namespace Exposure

/-- The run of a graph with its work done in the orders given: marks of declarations read, then
those of modules, and alias chains walked. -/
def Run.ofWork (graph : Graph) (maxAliasDepth : Nat) (exposesByDefault : Bool)
    (declarations : List Declaration) (modules : List Module) (starts : List Declaration) :
    Run where
  graph
  extraction := .process declarations modules
  chains := Alias.resolveEach graph maxAliasDepth starts
  exposesByDefault

/-- The run of a graph works in the order of loading. -/
theorem Run.ofGraph_eq_ofWork (graph : Graph) (depth : Nat) (byDefault : Bool) :
    Run.ofGraph graph depth byDefault =
      .ofWork graph depth byDefault graph.declarations graph.modules graph.aliases := rfl

/-! ### Marks that do not read -/

/-- The marks found on `owner` at `site` that do not read. -/
def Marks.illegible (owner : String) (site : Site) (marks : List Mark) : List Mark :=
  marks.filter fun mark ↦ (mark.read owner site).toOption.isNone

/-- The marks of a graph that do not read, be they of declarations or of modules. -/
def Graph.illegible (graph : Graph) : List Mark :=
  (graph.declarations.flatMap fun declaration ↦
      Marks.illegible declaration.name (.declaration declaration.kind) declaration.marks) ++
    graph.modules.flatMap fun module ↦ Marks.illegible module.name .moduleScope module.marks

namespace Annotations

variable (owner : String) (site : Site) (marks : List Mark)

/-- What reading a list leaves in problems are the problems of its marks. -/
theorem getD_sides_read :
    (Extraction.sides (read owner site marks)).2.getD [] = problems owner site marks := by
  rcases hread : read owner site marks with found | annotations
  · exact of_read_eq_error hread
  · unfold read at hread
    split at hread
    · rename_i hnone
      exact hnone.symm
    · cases hread

/-- There is a problem for each mark that does not read. -/
theorem length_problems :
    (problems owner site marks).length = (Marks.illegible owner site marks).length := by
  induction marks with
  | nil => rfl
  | cons mark marks ih =>
    rw [problems, Marks.illegible, List.filterMap_cons, List.filter_cons]
    rcases mark.read owner site with problem | item
    · exact congrArg (· + 1) ih
    · exact ih

end Annotations

namespace Extraction

/-! ### The problems held -/

/-- A pass that puts in what it finds at each member comes to what is found, put in one after the
other. -/
theorem held_foldl_insert {σ β κ α : Type} [DecidableEq κ] (step : σ → β → σ)
    (held : σ → Keyed κ α) (found : β → Option (κ × α))
    (hstep : ∀ state x, held (step state x) =
      (found x).elim (held state) fun pair ↦ (held state).insert pair.1 pair.2)
    (xs : List β) (state : σ) :
    held (xs.foldl step state) =
      (xs.filterMap found).foldl (fun keyed pair ↦ keyed.insert pair.1 pair.2) (held state) := by
  induction xs generalizing state with
  | nil => rfl
  | cons x xs ih =>
    rw [List.foldl_cons, ih, hstep]
    rcases hx : found x with - | pair
    · rw [List.filterMap_cons_none hx]
      rfl
    · rw [List.filterMap_cons_some hx]
      rfl

/-- The problems of declarations are put in one after the other. -/
theorem declarationProblems_process (declarations : List Declaration) (modules : List Module) :
    (process declarations modules).declarationProblems =
      (declarations.filterMap fun declaration ↦
        (sides declaration.annotations).2.map (declaration.id, ·)).foldl
          (fun keyed pair ↦ keyed.insert pair.1 pair.2) .empty := by
  -- the second pass finds nothing of this kind
  have hmodules := held_foldl_insert addModule declarationProblems (fun _ ↦ none)
    (fun extraction module ↦ by rw [addModule]; split <;> rfl) modules
  rw [process, hmodules, List.filterMap_eq_nil_iff.2 fun _ _ ↦ rfl, List.foldl_nil]
  refine held_foldl_insert addDeclaration declarationProblems _
    (fun extraction declaration ↦ ?_) declarations empty
  rw [addDeclaration]
  split <;> rename_i hread <;> rw [hread] <;> rfl

/-- The problems of modules are put in one after the other. -/
theorem moduleProblems_process (declarations : List Declaration) (modules : List Module) :
    (process declarations modules).moduleProblems =
      (modules.filterMap fun module ↦ (sides module.annotations).2.map (module.id, ·)).foldl
        (fun keyed pair ↦ keyed.insert pair.1 pair.2) .empty := by
  -- the first pass leaves what the second one adds to as it was
  have hdeclarations := held_foldl_insert addDeclaration moduleProblems (fun _ ↦ none)
    (fun extraction declaration ↦ by rw [addDeclaration]; split <;> rfl) declarations empty
  rw [List.filterMap_eq_nil_iff.2 fun _ _ ↦ rfl, List.foldl_nil] at hdeclarations
  rw [process, held_foldl_insert addModule moduleProblems
    (fun module ↦ (sides module.annotations).2.map (module.id, ·)) ?_ modules, hdeclarations]
  · rfl
  · intro extraction module
    rw [addModule]
    split <;> rename_i hread <;> rw [hread] <;> rfl

/-- Where keys come once, as many problems are held as were found. -/
theorem length_flatMap_entries {β κ : Type} [DecidableEq κ] {key : β → κ}
    (found : β → Option (List Problem)) {xs : List β} (hnodup : (xs.map key).Nodup) :
    (((xs.filterMap fun x ↦ (found x).map (key x, ·)).foldl
      (fun keyed pair ↦ keyed.insert pair.1 pair.2) Keyed.empty).entries.flatMap (·.2)).length =
        (xs.flatMap fun x ↦ (found x).getD []).length := by
  have hkeys : ((xs.filterMap fun x ↦ (found x).map (key x, ·)).map (·.1)).Nodup := by
    refine List.pairwise_map.2 ((List.pairwise_map.1 hnodup).filterMap _ ?_)
    rintro a b hne pair hpair other hother
    obtain ⟨problems, -, rfl⟩ := Option.map_eq_some_iff.1 hpair
    obtain ⟨problems', -, rfl⟩ := Option.map_eq_some_iff.1 hother
    exact hne
  have hproblems : (xs.filterMap fun x ↦ (found x).map (key x, ·)).flatMap (·.2) =
      xs.flatMap fun x ↦ (found x).getD [] := by
    clear hnodup hkeys
    induction xs with
    | nil => rfl
    | cons x xs ih => rcases hx : found x with - | problems <;> simp [hx, ih]
  rw [Keyed.entries_foldl_insert hkeys, ((List.reverse_perm _).flatMap_right _).length_eq,
    hproblems]

/-- **The number of problems held** is that of the marks that do not read. -/
theorem problemCount_process {graph : Graph} (hgraph : graph.WellFormed)
    {declarations : List Declaration} (hdeclarations : declarations.Perm graph.declarations)
    {modules : List Module} (hmodules : modules.Perm graph.modules) :
    (process declarations modules).problemCount = graph.illegible.length := by
  have hsite (owner : String) (site : Site) (marks : List Mark) :
      ((sides (Annotations.read owner site marks)).2.getD []).length =
        (Marks.illegible owner site marks).length := by
    rw [Annotations.getD_sides_read, Annotations.length_problems]
  rw [problemCount, declarationProblems_process, moduleProblems_process,
    length_flatMap_entries (fun declaration : Declaration ↦ (sides declaration.annotations).2)
      ((hdeclarations.map _).nodup_iff.2 hgraph.nodup_declaration_ids),
    length_flatMap_entries (fun module : Module ↦ (sides module.annotations).2)
      ((hmodules.map _).nodup_iff.2 hgraph.nodup_module_ids),
    (hdeclarations.flatMap_right _).length_eq, (hmodules.flatMap_right _).length_eq,
    Graph.illegible, List.length_append]
  simp only [List.length_flatMap, Declaration.annotations, Module.annotations, hsite]

end Extraction

/-! ### Chains walked -/

namespace Alias

/-- A walk is held for each alias, and once. -/
theorem keys_resolveEach_perm {graph : Graph} (hgraph : graph.WellFormed) (depth : Nat)
    {starts : List Declaration} (hstarts : starts.Perm graph.aliases) :
    ((resolveEach graph depth starts).entries.map (·.1)).Perm (graph.aliases.map (·.id)) := by
  have hids : ((starts.map fun start ↦ (start.id, resolve graph depth start)).map (·.1)) =
      starts.map (·.id) := List.map_map
  have hnodup : (starts.map (·.id)).Nodup :=
    (hstarts.map _).nodup_iff.2 ((List.filter_sublist.map _).nodup hgraph.nodup_declaration_ids)
  rw [resolveEach_eq, Keyed.entries_foldl_insert (hids ▸ hnodup)]
  exact ((List.reverse_perm _).map _).trans (.trans (.of_eq hids) (hstarts.map _))

end Alias

/-! ### Runs that answer alike -/

/-- **Two runs answer alike**: they are of one graph under one default, and under every identity
they hold the same. -/
structure Run.AnswersAlike (run other : Run) : Prop where
  graph : run.graph = other.graph
  exposesByDefault : run.exposesByDefault = other.exposesByDefault
  atDeclaration : ∀ id, run.extraction.atDeclaration id = other.extraction.atDeclaration id
  atModule : ∀ id, run.extraction.atModule id = other.extraction.atModule id
  chains : ∀ id, run.chains.get? id = other.chains.get? id

namespace Run.AnswersAlike

variable {run other : Run} (h : run.AnswersAlike other)
include h

theorem get?_store (id : DeclId) :
    run.extraction.store.get? id = other.extraction.store.get? id :=
  congrArg Prod.fst (h.atDeclaration id)

theorem get?_declarationProblems (id : DeclId) :
    run.extraction.declarationProblems.get? id = other.extraction.declarationProblems.get? id :=
  congrArg Prod.snd (h.atDeclaration id)

theorem getModule?_store (id : ModuleId) :
    run.extraction.store.getModule? id = other.extraction.store.getModule? id :=
  congrArg Prod.fst (h.atModule id)

theorem get?_moduleProblems (id : ModuleId) :
    run.extraction.moduleProblems.get? id = other.extraction.moduleProblems.get? id :=
  congrArg Prod.snd (h.atModule id)

theorem inheritedExposure (declaration : Declaration) :
    run.inheritedExposure declaration = other.inheritedExposure declaration := by
  simp only [Run.inheritedExposure, h.graph, h.exposesByDefault, h.get?_store, h.getModule?_store]

theorem isHidden (declaration : Declaration) :
    run.isHidden declaration = other.isHidden declaration := by
  rw [Run.isHidden, Run.isHidden, h.get?_store]

theorem changeSlot (target : Declaration) (change : Slot → Slot) (slots : List Slot) :
    Survey.changeSlot run target change slots = Survey.changeSlot other target change slots := by
  induction slots with
  | nil => rw [Survey.changeSlot, Survey.changeSlot, h.isHidden]
  | cons slot rest ih => rw [Survey.changeSlot, Survey.changeSlot, ih]

theorem expose (survey : Survey) (target : Declaration) :
    survey.expose run target = survey.expose other target := by
  rw [Survey.expose, Survey.expose, h.changeSlot]

theorem request (survey : Survey) (target : Declaration) (asked : Alias.Request) :
    survey.request run target asked = survey.request other target asked := by
  rw [Survey.request, Survey.request, h.changeSlot]

theorem emissionSite (declaration : Declaration) (annotations : Annotations) :
    Survey.emissionSite run declaration annotations =
      Survey.emissionSite other declaration annotations := by
  simp only [Survey.emissionSite, h.graph]

theorem requestOf (declaration : Declaration) (annotations : Annotations)
    (site : Option ModuleId) :
    Survey.requestOf run declaration annotations site =
      Survey.requestOf other declaration annotations site := by
  rw [Survey.requestOf, Survey.requestOf, h.inheritedExposure]

theorem visitBinding (survey : Survey) (declaration : Declaration) (annotations : Annotations)
    (target : Declaration) :
    survey.visitBinding run declaration annotations target =
      survey.visitBinding other declaration annotations target := by
  simp only [Survey.visitBinding, h.emissionSite, h.requestOf, h.request]

theorem visitAlias (survey : Survey) (declaration : Declaration) (annotations : Annotations) :
    survey.visitAlias run declaration annotations =
      survey.visitAlias other declaration annotations := by
  simp only [Survey.visitAlias, h.chains, h.visitBinding]

theorem visitBindable (survey : Survey) (declaration : Declaration) (annotations : Annotations) :
    survey.visitBindable run declaration annotations =
      survey.visitBindable other declaration annotations := by
  simp only [Survey.visitBindable, h.inheritedExposure, h.expose]

theorem reportKnown (survey : Survey) (declaration : Declaration) :
    survey.reportKnown run declaration = survey.reportKnown other declaration := by
  simp only [Survey.reportKnown, h.get?_declarationProblems, h.chains]

theorem visit (survey : Survey) (declaration : Declaration) :
    survey.visit run declaration = survey.visit other declaration := by
  simp only [Survey.visit, h.get?_store, h.reportKnown, h.visitAlias, h.visitBindable]

theorem visitModule (survey : Survey) (module : Module) :
    survey.visitModule run module = survey.visitModule other module := by
  simp only [Survey.visitModule, h.getModule?_store, h.get?_moduleProblems]

/-- **Runs that answer alike make every visit alike.** -/
theorem make (survey : Survey) (visit : Visit) :
    survey.make run visit = survey.make other visit := by
  cases visit with
  | scope module => exact h.visitModule survey module
  | member declaration => exact h.visit survey declaration

/-- **Runs that answer alike come to the same survey**, by induction on the visits. -/
theorem ofRun : Survey.ofRun run = Survey.ofRun other := by
  rw [Survey.ofRun_eq, Survey.ofRun_eq, h.graph]
  generalize Survey.empty = survey
  induction other.graph.visits generalizing survey with
  | nil => rfl
  | cons visit visits ih => rw [List.foldl_cons, List.foldl_cons, h.make, ih]

/-- Runs that answer alike come to the same plan, or to the same problems. -/
theorem plan : run.plan = other.plan := by
  rw [Run.plan, Run.plan, h.graph, h.ofRun]

end Run.AnswersAlike

/-! ### Any order of work -/

namespace Run

variable {graph : Graph} (hgraph : graph.WellFormed) (depth : Nat) (byDefault : Bool)
  {declarations : List Declaration} (hdeclarations : declarations.Perm graph.declarations)
  {modules : List Module} (hmodules : modules.Perm graph.modules)
include hgraph

section Declarations

include hdeclarations

/-- Under the identity of a declaration stands what reading its marks gives, on one side. -/
theorem atDeclaration_ofWork (modules : List Module) (starts : List Declaration)
    {declaration : Declaration} (hmem : declaration ∈ graph.declarations) :
    (ofWork graph depth byDefault declarations modules starts).extraction.atDeclaration
      declaration.id = Extraction.sides declaration.annotations :=
  Extraction.atDeclaration_process
    ((hdeclarations.map _).nodup_iff.2 hgraph.nodup_declaration_ids) (hdeclarations.mem_iff.2 hmem)

omit hgraph in
/-- Under what is no identity of a declaration stands nothing. -/
theorem atDeclaration_ofWork_of_forall_ne (modules : List Module) (starts : List Declaration)
    {id : DeclId} (hne : ∀ declaration ∈ graph.declarations, declaration.id ≠ id) :
    (ofWork graph depth byDefault declarations modules starts).extraction.atDeclaration id =
      (none, none) :=
  Extraction.atDeclaration_process_of_forall_ne fun declaration hmem ↦
    hne declaration (hdeclarations.mem_iff.1 hmem)

end Declarations

section Modules

include hmodules

/-- Under the identity of a module stands what reading its marks gives, on one side. -/
theorem atModule_ofWork (declarations starts : List Declaration) {module : Module}
    (hmem : module ∈ graph.modules) :
    (ofWork graph depth byDefault declarations modules starts).extraction.atModule module.id =
      Extraction.sides module.annotations :=
  Extraction.atModule_process ((hmodules.map _).nodup_iff.2 hgraph.nodup_module_ids)
    (hmodules.mem_iff.2 hmem)

omit hgraph in
/-- Under what is no identity of a module stands nothing. -/
theorem atModule_ofWork_of_forall_ne (declarations starts : List Declaration) {id : ModuleId}
    (hne : ∀ module ∈ graph.modules, module.id ≠ id) :
    (ofWork graph depth byDefault declarations modules starts).extraction.atModule id =
      (none, none) :=
  Extraction.atModule_process_of_forall_ne fun module hmem ↦
    hne module (hmodules.mem_iff.1 hmem)

end Modules

/-- **Work done in any order** leaves a run that answers as the one that worked in the order of
loading. -/
theorem answersAlike_ofWork (hdeclarations : declarations.Perm graph.declarations)
    (hmodules : modules.Perm graph.modules) {starts : List Declaration}
    (hstarts : starts.Perm graph.aliases) :
    (ofWork graph depth byDefault declarations modules starts).AnswersAlike
      (Run.ofGraph graph depth byDefault) := by
  refine ⟨rfl, rfl, fun id ↦ ?_, fun id ↦ ?_, fun id ↦ ?_⟩
  · by_cases hknown : ∃ declaration ∈ graph.declarations, declaration.id = id
    · obtain ⟨declaration, hmem, rfl⟩ := hknown
      rw [atDeclaration_ofWork hgraph depth byDefault hdeclarations modules starts hmem,
        atDeclaration_ofGraph hgraph depth byDefault hmem]
    · have hne : ∀ declaration ∈ graph.declarations, declaration.id ≠ id := by simpa using hknown
      rw [atDeclaration_ofWork_of_forall_ne depth byDefault hdeclarations modules starts hne,
        ofGraph_eq_ofWork, atDeclaration_ofWork_of_forall_ne depth byDefault (.refl _) _ _ hne]
  · by_cases hknown : ∃ module ∈ graph.modules, module.id = id
    · obtain ⟨module, hmem, rfl⟩ := hknown
      rw [atModule_ofWork hgraph depth byDefault hmodules declarations starts hmem,
        atModule_ofGraph hgraph depth byDefault hmem]
    · have hne : ∀ module ∈ graph.modules, module.id ≠ id := by simpa using hknown
      rw [atModule_ofWork_of_forall_ne depth byDefault hmodules declarations starts hne,
        ofGraph_eq_ofWork, atModule_ofWork_of_forall_ne depth byDefault (.refl _) _ _ hne]
  · ext outcome
    show (Alias.resolveEach graph depth starts).get? id = some outcome ↔
      (Alias.resolveEach graph depth graph.aliases).get? id = some outcome
    rw [Alias.get?_resolveEach_eq_some hgraph depth hstarts,
      Alias.get?_resolveEach_eq_some hgraph depth (.refl _)]

end Run

/-- **The order of work is irrelevant, and nothing is lost.** In whatever orders declarations and
modules are read and alias chains are walked, the annotations or the problems of each are held under
its identity, never both, and nothing else is; there are as many problems as marks that do not read;
a walk is held for each alias and for nothing else, with where the alias leads; and the run comes to
the same plan, or to the same problems, as in the order of loading. -/
theorem Run.work_order_irrelevant {graph : Graph} (h : graph.Built) (depth : Nat)
    (byDefault : Bool) {declarations : List Declaration}
    (hdeclarations : declarations.Perm graph.declarations) {modules : List Module}
    (hmodules : modules.Perm graph.modules) {starts : List Declaration}
    (hstarts : starts.Perm graph.aliases) :
    let run := Run.ofWork graph depth byDefault declarations modules starts
    (∀ declaration ∈ graph.declarations, run.extraction.atDeclaration declaration.id =
      Extraction.sides declaration.annotations) ∧
    (∀ id, (∀ declaration ∈ graph.declarations, declaration.id ≠ id) →
      run.extraction.atDeclaration id = (none, none)) ∧
    (∀ module ∈ graph.modules, run.extraction.atModule module.id =
      Extraction.sides module.annotations) ∧
    (∀ id, (∀ module ∈ graph.modules, module.id ≠ id) →
      run.extraction.atModule id = (none, none)) ∧
    run.extraction.problemCount = graph.illegible.length ∧
    (∀ id outcome, run.chains.get? id = some outcome ↔
      ∃ start ∈ graph.declarations, start.isAlias ∧ start.id = id ∧
        Alias.resolve graph depth start = outcome) ∧
    (run.chains.entries.map (·.1)).Perm (graph.aliases.map (·.id)) ∧
    run.plan = (Run.ofGraph graph depth byDefault).plan := by
  -- Each list of work has its own part: what is held is found by identity, in whatever order.
  have hgraph := h.wellFormed
  refine ⟨fun declaration hmem ↦ ?_, fun id hne ↦ ?_, fun module hmem ↦ ?_, fun id hne ↦ ?_,
    Extraction.problemCount_process hgraph hdeclarations hmodules,
    fun id outcome ↦ Alias.get?_resolveEach_eq_some hgraph depth hstarts,
    Alias.keys_resolveEach_perm hgraph depth hstarts,
    (answersAlike_ofWork hgraph depth byDefault hdeclarations hmodules hstarts).plan⟩
  · exact atDeclaration_ofWork hgraph depth byDefault hdeclarations modules starts hmem
  · exact atDeclaration_ofWork_of_forall_ne depth byDefault hdeclarations modules starts hne
  · exact atModule_ofWork hgraph depth byDefault hmodules declarations starts hmem
  · exact atModule_ofWork_of_forall_ne depth byDefault hmodules declarations starts hne

/-- A document with three bad marks, one at a module and two on an alias of an alias. -/
def Document.blotted : Document where
  modules := [⟨"core", [⟨"vizible", none⟩]⟩, ⟨"api", []⟩]
  declarations :=
    [⟨"core::Point", "struct", "core", none, none, []⟩,
     ⟨"api::Spot", "alias", "api", none, some "core::Point", [⟨"visible", none⟩]⟩,
     ⟨"api::Dot", "alias", "api", none, some "api::Spot",
       [⟨"manual", none⟩, ⟨"visible", none⟩, ⟨"hidden", some "x"⟩]⟩]

/-- The graph of the blotted document. -/
def Document.blottedGraph : Graph where
  modules := [⟨⟨1⟩, "core", [⟨"vizible", none⟩]⟩, ⟨⟨2⟩, "api", []⟩]
  declarations :=
    [⟨⟨1⟩, "core::Point", .record, ⟨1⟩, none, none, []⟩,
     ⟨⟨2⟩, "api::Spot", .typeAlias, ⟨2⟩, none, some "core::Point", [⟨"visible", none⟩]⟩,
     ⟨⟨3⟩, "api::Dot", .typeAlias, ⟨2⟩, none, some "api::Spot",
       [⟨"manual", none⟩, ⟨"visible", none⟩, ⟨"hidden", some "x"⟩]⟩]

theorem Document.blottedGraph_built : blottedGraph.Built :=
  built_of_toGraph (show blotted.toGraph = .ok blottedGraph from rfl)

/-- Worked through backwards, the blotted document has its three problems all the same. -/
theorem Document.blottedGraph_backwards :
    let run := Run.ofWork blottedGraph 64 false blottedGraph.declarations.reverse
      blottedGraph.modules.reverse blottedGraph.aliases.reverse
    run.extraction.problemCount = 3 ∧ run.plan = (Run.ofGraph blottedGraph 64 false).plan := by
  obtain ⟨-, -, -, -, hcount, -, -, hplan⟩ := Run.work_order_irrelevant blottedGraph_built 64 false
    (List.reverse_perm blottedGraph.declarations) (List.reverse_perm blottedGraph.modules)
    (List.reverse_perm blottedGraph.aliases)
  have hthree : blottedGraph.illegible.length = 3 := by decide +kernel
  exact ⟨hcount.trans hthree, hplan⟩

end Exposure
