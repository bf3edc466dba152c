import Exposure.Proofs.Document.Built
import Exposure.Proofs.Graph.Rebuilding
import Exposure.Proofs.Plan.Asking

/-!
# What surroundings grant

What a declaration inherits is said here of every built graph, also where marks do not read or
contradict each other, and so of runs that come to no plan. A level of scope **sets** an exposure if
all its marks read and together decide one (`Marks.Sets`); a level that sets nothing is passed over
(`Marks.sets_nothing_iff` says which ones these are). `Graph.Grants` reads outward from place to
place, without a bound and without a list of scopes: the first scope that sets an exposure grants
it, whatever module it belongs to; outside of all scopes the module of the declaration does, and in
the end the default.

A run lets a declaration inherit what its place is granted (`Run.inheritedExposure_eq_iff`). What is
granted can be carried over from one graph to another along the scopes around a place, if each of
them is kept there and what surrounds it is not changed for it (`Nested.grants_of_kept`). So a
declaration's own marks do not matter to it, and a scope that sets nothing can be put around
anything or be taken away (`Graph.Encloses`).
-/

namespace Exposure

/-! ### Levels -/

/-- **What the marks of a level set**: all of them read, and they decide on an exposure. -/
structure Marks.Sets (owner : String) (site : Site) (marks : List Mark) (visible : Bool) :
    Prop where
  reads : ∀ mark ∈ marks, ∃ item, mark.read owner site = .ok item
  decides : decision? marks = some visible

/-- A name scope sets an exposure. -/
def Declaration.Sets (scope : Declaration) (visible : Bool) : Prop :=
  Marks.Sets scope.name (.declaration scope.kind) scope.marks visible

/-- The scope of a module sets an exposure. -/
def Module.Sets (module : Module) (visible : Bool) : Prop :=
  Marks.Sets module.name .moduleScope module.marks visible

namespace Marks

/-- Marks decide nothing that contradict each other or do not speak of exposure. -/
theorem decision?_eq_none_iff {marks : List Mark} :
    decision? marks = none ↔
      conflict marks ∨ askExposure marks = false ∧ carry marks .hidden = false := by
  rw [decision?, conflict]
  cases askExposure marks <;> cases carry marks .hidden <;> simp

/-- **Which levels set nothing**: those with a mark that does not read, those that ask for exposure
and hide at once, and those that do neither. -/
theorem sets_nothing_iff {owner : String} {site : Site} {marks : List Mark} :
    (∀ visible, ¬ Sets owner site marks visible) ↔
      (∃ mark ∈ marks, ∃ problem, mark.read owner site = .error problem) ∨ conflict marks ∨
        askExposure marks = false ∧ carry marks .hidden = false := by
  have hread {mark : Mark} : (∃ problem, mark.read owner site = .error problem) ↔
      ¬ ∃ item, mark.read owner site = .ok item := by
    rcases mark.read owner site with problem | item <;> simp
  rw [← decision?_eq_none_iff]
  constructor
  · intro hnothing
    by_cases hreads : ∀ mark ∈ marks, ∃ item, mark.read owner site = .ok item
    · refine .inr (Option.eq_none_iff_forall_ne_some.2 fun visible hdecides ↦ ?_)
      exact hnothing visible ⟨hreads, hdecides⟩
    · push Not at hreads
      obtain ⟨mark, hmem, hfails⟩ := hreads
      exact .inl ⟨mark, hmem, hread.2 (not_exists.2 hfails)⟩
  · rintro (⟨mark, hmem, hfails⟩ | hnone) visible ⟨hreads, hdecides⟩
    · exact hread.1 hfails (hreads mark hmem)
    · rw [hnone] at hdecides
      cases hdecides

/-- What the annotations of a level decide, if its marks read. -/
def setting? (owner : String) (site : Site) (marks : List Mark) : Option Bool :=
  (Extraction.sides (Annotations.read owner site marks)).1.bind (·.standing.decision?)

/-- What a level sets is what its annotations decide. -/
theorem sets_iff {owner : String} {site : Site} {marks : List Mark} {visible : Bool} :
    Sets owner site marks visible ↔ setting? owner site marks = some visible := by
  rw [setting?]
  rcases hread : Annotations.read owner site marks with problems | annotations
  · refine iff_of_false (fun h ↦ ?_) (by simp [Extraction.sides])
    obtain ⟨annotations, hok⟩ := Annotations.exists_read_eq_ok.2 h.reads
    rw [hok] at hread
    cases hread
  · rw [Extraction.sides, Option.bind_some, Annotations.decision?_of_read hread]
    exact ⟨fun h ↦ h.decides, fun h ↦ ⟨Annotations.exists_read_eq_ok.1 ⟨_, hread⟩, h⟩⟩

/-- A level sets nothing exactly if its annotations decide nothing. -/
theorem sets_nothing_iff_setting? {owner : String} {site : Site} {marks : List Mark} :
    (∀ visible, ¬ Sets owner site marks visible) ↔ setting? owner site marks = none := by
  simp only [sets_iff, Option.eq_none_iff_forall_ne_some, ne_eq]

end Marks

/-- What the annotations of a declaration decide, if its marks read. -/
def Declaration.setting? (declaration : Declaration) : Option Bool :=
  Marks.setting? declaration.name (.declaration declaration.kind) declaration.marks

/-- What the annotations of a module scope decide, if its marks read. -/
def Module.setting? (module : Module) : Option Bool :=
  Marks.setting? module.name .moduleScope module.marks

/-! ### Places -/

namespace Graph

/-- **What a place is granted, read outward.** For a declaration of the given module the place
inside `next` is granted what the innermost scope sets; where that one sets nothing, what the place
outside of it is granted; and outside of all scopes what the module's own scope sets, or the default
where not even that one sets anything. Scopes may belong to other modules; the module does not
change on the way. -/
inductive Grants (graph : Graph) (byDefault : Bool) (module : ModuleId) :
    Option DeclId → Bool → Prop
  | within {id : DeclId} {scope : Declaration} {visible : Bool}
      (found : graph.declaration? id = some scope) (sets : scope.Sets visible) :
      Grants graph byDefault module (some id) visible
  | beyond {id : DeclId} {scope : Declaration} {visible : Bool}
      (found : graph.declaration? id = some scope) (silent : ∀ any, ¬ scope.Sets any)
      (outside : Grants graph byDefault module scope.parent visible) :
      Grants graph byDefault module (some id) visible
  | atModule {scope : Module} {visible : Bool} (found : graph.module? module = some scope)
      (sets : scope.Sets visible) : Grants graph byDefault module none visible
  | nowhere {scope : Module} (found : graph.module? module = some scope)
      (silent : ∀ any, ¬ scope.Sets any) : Grants graph byDefault module none byDefault

variable {graph : Graph} {byDefault : Bool} {module : ModuleId}

/-- Outside of all scopes the module decides, or else the default. -/
theorem grants_none_iff {scope : Module} (hmodule : graph.module? module = some scope)
    {visible : Bool} :
    graph.Grants byDefault module none visible ↔ scope.setting?.getD byDefault = visible := by
  constructor
  · rintro (- | - | ⟨found, sets⟩ | ⟨found, silent⟩)
    · obtain rfl := Option.some.inj (hmodule.symm.trans found)
      rw [Module.setting?, Marks.sets_iff.1 sets, Option.getD_some]
    · obtain rfl := Option.some.inj (hmodule.symm.trans found)
      rw [Module.setting?, Marks.sets_nothing_iff_setting?.1 silent, Option.getD_none]
  · rintro rfl
    rcases hsetting : scope.setting? with - | visible
    · exact .nowhere hmodule (Marks.sets_nothing_iff_setting?.2 hsetting)
    · exact .atModule hmodule (Marks.sets_iff.2 hsetting)

/-- Inside a scope the scope decides, or else the place outside of it. -/
theorem grants_some_iff {id : DeclId} {scope : Declaration}
    (hscope : graph.declaration? id = some scope) {visible : Bool} :
    graph.Grants byDefault module (some id) visible ↔ scope.setting? = some visible ∨
      scope.setting? = none ∧ graph.Grants byDefault module scope.parent visible := by
  constructor
  · rintro (⟨found, sets⟩ | ⟨found, silent, outside⟩)
    · obtain rfl := Option.some.inj (hscope.symm.trans found)
      exact .inl (Marks.sets_iff.1 sets)
    · obtain rfl := Option.some.inj (hscope.symm.trans found)
      exact .inr ⟨Marks.sets_nothing_iff_setting?.1 silent, outside⟩
  · rintro (hsets | ⟨hsilent, houtside⟩)
    · exact .within hscope (Marks.sets_iff.2 hsets)
    · exact .beyond hscope (Marks.sets_nothing_iff_setting?.2 hsilent) houtside

namespace Nested

/-- Along a complete chain of scopes a place is granted the first thing that is set. -/
theorem grants_iff {scope : Module} (hmodule : graph.module? module = some scope)
    {next : Option DeclId} {scopes : List Declaration} (h : graph.Nested next scopes)
    {visible : Bool} :
    graph.Grants byDefault module next visible ↔
      ((scopes.findSome? (·.setting?)).or scope.setting?).getD byDefault = visible := by
  induction h with
  | top => exact grants_none_iff hmodule
  | @inside id inner scopes found _ ih =>
    rw [grants_some_iff found, ih, List.findSome?_cons]
    rcases inner.setting? with - | set <;> simp

/-- **What is granted is granted in another graph too**, if each scope around the place is kept
there with what it sets, and what is granted to its old place is granted to the place it has come
to. -/
theorem grants_of_kept (hgraph : graph.WellFormed) (other : Graph)
    (hmodules : other.modules = graph.modules) {ρ : DeclId → DeclId} {next : Option DeclId}
    {scopes : List Declaration} (h : graph.Nested next scopes)
    (hkept : ∀ scope ∈ scopes, ∃ kept, other.declaration? (ρ scope.id) = some kept ∧
      kept.setting? = scope.setting? ∧ ∀ visible,
        other.Grants byDefault module (scope.parent.map ρ) visible →
          other.Grants byDefault module kept.parent visible)
    {visible : Bool} (hgrants : graph.Grants byDefault module next visible) :
    other.Grants byDefault module (next.map ρ) visible := by
  induction h with
  | top =>
    have hfound {scope : Module} (found : graph.module? module = some scope) :
        other.module? module = some scope := by
      rwa [module?, hmodules]
    rcases hgrants with - | - | ⟨found, sets⟩ | ⟨found, silent⟩
    · exact .atModule (hfound found) sets
    · exact .nowhere (hfound found) silent
  | @inside id scope scopes found _ ih =>
    obtain ⟨⟨kept, hfound, hsetting, hplace⟩, houter⟩ := List.forall_mem_cons.1 hkept
    rw [(hgraph.declaration?_eq_some.1 found).2] at hfound
    rw [Option.map_some, grants_some_iff hfound, hsetting]
    rcases (grants_some_iff found).1 hgrants with hsets | ⟨hsilent, houtside⟩
    · exact .inl hsets
    · exact .inr ⟨hsilent, hplace visible (ih houter houtside)⟩

end Nested

/-! ### Scopes put around declarations -/

/-- **A graph with a name scope more.** What the smaller graph declares is kept under other numbers.
Each declaration has the parent that it had, or is inside the added scope, which then stands where
the declaration stood. Which declarations go inside is left open, and so is the place of the added
scope in the order of loading and the module that owns it. -/
structure Encloses (larger : Graph) (ρ : DeclId → DeclId) (graph : Graph) (added : Declaration) :
    Prop where
  modules : larger.modules = graph.modules
  added_mem : added ∈ larger.declarations
  kept : ∀ declaration ∈ graph.declarations, ∃ kept ∈ larger.declarations,
    kept.id = ρ declaration.id ∧ kept.name = declaration.name ∧ kept.kind = declaration.kind ∧
      kept.module = declaration.module ∧ kept.target = declaration.target ∧
      kept.marks = declaration.marks ∧
      (kept.parent = declaration.parent.map ρ ∨
        kept.parent = some added.id ∧ added.parent = declaration.parent.map ρ)

namespace Encloses

variable {larger : Graph} {ρ : DeclId → DeclId} {added : Declaration}
  (h : larger.Encloses ρ graph added) (hlarger : larger.WellFormed)
  (hsilent : ∀ visible, ¬ added.Sets visible)
include h hlarger hsilent

/-- A declaration that is kept stands at a place that is granted what its old place is granted: at
most the added scope lies between. -/
theorem exists_kept (byDefault : Bool) (module : ModuleId) {declaration : Declaration}
    (hmem : declaration ∈ graph.declarations) :
    ∃ kept, larger.declaration? (ρ declaration.id) = some kept ∧
      kept.module = declaration.module ∧ kept.setting? = declaration.setting? ∧ ∀ visible,
        larger.Grants byDefault module (declaration.parent.map ρ) visible →
          larger.Grants byDefault module kept.parent visible := by
  obtain ⟨kept, hkept, hid, hname, hkind, howner, -, hmarks, hparent⟩ := h.kept declaration hmem
  refine ⟨kept, hlarger.declaration?_eq_some.2 ⟨hkept, hid⟩, howner, ?_, fun visible hgrants ↦ ?_⟩
  · rw [Declaration.setting?, hname, hkind, hmarks]
    rfl
  · rcases hparent with hsame | ⟨hinside, houtside⟩
    · rwa [hsame]
    · rw [hinside]
      rw [← houtside] at hgrants
      exact .beyond (hlarger.declaration?_eq_some.2 ⟨h.added_mem, rfl⟩) hsilent hgrants

/-- **A scope that sets nothing changes nothing**: what is granted to a declaration is granted to it
in the larger graph. -/
theorem grants_of_grants (hgraph : graph.Built) {declaration : Declaration}
    (hmem : declaration ∈ graph.declarations) {visible : Bool}
    (hgrants : graph.Grants byDefault declaration.module declaration.parent visible)
    {kept : Declaration} (hkept : kept ∈ larger.declarations) (hid : kept.id = ρ declaration.id) :
    larger.Grants byDefault kept.module kept.parent visible := by
  obtain ⟨found, hfound, howner, -, hplace⟩ :=
    h.exists_kept hlarger hsilent byDefault declaration.module hmem
  obtain rfl : found = kept :=
    Option.some.inj (hfound.symm.trans (hlarger.declaration?_eq_some.2 ⟨hkept, hid⟩))
  rw [howner]
  refine hplace visible ((hgraph.nested_enclosingScopes hmem).grants_of_kept hgraph.wellFormed
    larger h.modules (fun scope hscope ↦ ?_) hgrants)
  obtain ⟨kept, hfound, -, hsetting, hplace⟩ :=
    h.exists_kept hlarger hsilent byDefault declaration.module
      (enclosingScopes_subset hgraph.wellFormed declaration hscope)
  exact ⟨kept, hfound, hsetting, hplace⟩

end Encloses

/-! ### A declaration's own marks -/

/-- No declaration is among the scopes around it. -/
theorem Built.not_mem_enclosingScopes (h : graph.Built) {declaration : Declaration}
    (hmem : declaration ∈ graph.declarations) :
    declaration ∉ graph.enclosingScopes declaration := by
  have hnested : graph.Nested (some declaration.id)
      (declaration :: graph.enclosingScopes declaration) :=
    .inside (h.wellFormed.declaration?_eq_some.2 ⟨hmem, rfl⟩) (h.nested_enclosingScopes hmem)
  exact (List.nodup_cons.1 hnested.nodup).1

/-- **A declaration's own marks do not matter to what it is granted.** -/
theorem Built.grants_remark (h : graph.Built) {declaration : Declaration}
    (hmem : declaration ∈ graph.declarations) (marks : List Mark) {visible : Bool}
    (hgrants : graph.Grants byDefault module declaration.parent visible) :
    (graph.remark declaration.id marks).Grants byDefault module declaration.parent visible := by
  have hkept := (h.nested_enclosingScopes hmem).grants_of_kept (ρ := id) h.wellFormed
    (graph.remark declaration.id marks) rfl (fun scope hscope ↦ ?_) hgrants
  · rwa [Option.map_id] at hkept
  · have hdeclared := enclosingScopes_subset h.wellFormed declaration hscope
    have hother : scope.id ≠ declaration.id := fun heq ↦
      h.not_mem_enclosingScopes hmem (h.wellFormed.declaration_unique hdeclared hmem heq ▸ hscope)
    refine ⟨scope, ?_, rfl, fun visible hgrants ↦ by rwa [Option.map_id] at hgrants⟩
    rw [id, declaration?_remark, h.wellFormed.declaration?_eq_some.2 ⟨hdeclared, rfl⟩,
      Option.map_some, Declaration.remark_of_ne _ _ _ hother]

end Graph

/-! ### Runs -/

namespace Run

variable {graph : Graph} (depth : Nat) (byDefault : Bool) {declaration : Declaration}

/-- A run lets a declaration inherit the first thing that is set around it. -/
theorem inheritedExposure_eq (hgraph : graph.WellFormed) {module : Module}
    (hmodule : graph.module? declaration.module = some module) :
    (Run.ofGraph graph depth byDefault).inheritedExposure declaration =
      (((graph.enclosingScopes declaration).findSome? (·.setting?)).or
        module.setting?).getD byDefault := by
  obtain ⟨hmem, hid⟩ := hgraph.module?_eq_some.1 hmodule
  have hscope : ∀ scope ∈ graph.enclosingScopes declaration,
      ((Run.ofGraph graph depth byDefault).extraction.store.get? scope.id).bind
        (·.standing.decision?) = scope.setting? := by
    intro scope hscope
    have hdeclared := Graph.enclosingScopes_subset hgraph declaration hscope
    have hheld := congrArg Prod.fst (atDeclaration_ofGraph hgraph depth byDefault hdeclared)
    exact congrArg (·.bind (·.standing.decision?)) hheld
  have hatModule : ((Run.ofGraph graph depth byDefault).extraction.store.getModule?
      declaration.module).bind (·.standing.decision?) = module.setting? := by
    have hheld := congrArg Prod.fst (atModule_ofGraph hgraph depth byDefault hmem)
    rw [← hid]
    exact congrArg (·.bind (·.standing.decision?)) hheld
  -- Both sides take the first decision along the same levels.
  rw [inheritedExposure, graph_ofGraph, exposesByDefault_ofGraph, ← hatModule]
  simp only [← List.head?_filterMap, List.filterMap_append, List.filterMap_filterMap]
  rw [List.filterMap_congr hscope, List.head?_append]
  congr 2
  cases (Run.ofGraph graph depth byDefault).extraction.store.getModule? declaration.module with
  | none => rfl
  | some annotations => simp

/-- **A run lets a declaration inherit what its place is granted.** -/
theorem inheritedExposure_eq_iff (hgraph : graph.Built) (hmem : declaration ∈ graph.declarations)
    {visible : Bool} :
    (Run.ofGraph graph depth byDefault).inheritedExposure declaration = visible ↔
      graph.Grants byDefault declaration.module declaration.parent visible := by
  obtain ⟨module, hmodule, hid⟩ := hgraph.wellFormed.owned declaration hmem
  have hfound : graph.module? declaration.module = some module :=
    hgraph.wellFormed.module?_eq_some.2 ⟨hmodule, hid⟩
  rw [inheritedExposure_eq depth byDefault hgraph.wellFormed hfound,
    (hgraph.nested_enclosingScopes hmem).grants_iff hfound]

/-- **Inherited exposure on every built graph**, whatever is wrong with its marks. A declaration
inherits what is set by the innermost name scope around it whose marks read and decide an exposure,
else by the scope of its own module, else by default; scopes may belong to other modules. Its own
marks do not matter. A name scope with a mark that does not read, with marks that ask for exposure
and hide at once, or with marks that do neither, may be put around any declarations or be taken away
from around them without changing what any declaration inherits. -/
theorem inheritedExposure_exact (hgraph : graph.Built) (hmem : declaration ∈ graph.declarations) :
    (∀ visible, (Run.ofGraph graph depth byDefault).inheritedExposure declaration = visible ↔
      graph.Grants byDefault declaration.module declaration.parent visible) ∧
    (∀ marks, (graph.remark declaration.id marks).Built ∧
      { declaration with marks } ∈ (graph.remark declaration.id marks).declarations ∧
      (Run.ofGraph (graph.remark declaration.id marks) depth byDefault).inheritedExposure
          { declaration with marks } =
        (Run.ofGraph graph depth byDefault).inheritedExposure declaration) ∧
    (∀ (larger : Graph) (ρ : DeclId → DeclId) (added kept : Declaration), larger.Built →
      larger.Encloses ρ graph added →
      (∃ mark ∈ added.marks, ∃ problem,
          mark.read added.name (.declaration added.kind) = .error problem) ∨
        Marks.conflict added.marks ∨
        added.asksExposure = false ∧ added.carries .hidden = false →
      kept ∈ larger.declarations → kept.id = ρ declaration.id →
      (Run.ofGraph larger depth byDefault).inheritedExposure kept =
        (Run.ofGraph graph depth byDefault).inheritedExposure declaration) := by
  have hgrants := (inheritedExposure_eq_iff depth byDefault hgraph hmem).1 rfl
  refine ⟨fun visible ↦ inheritedExposure_eq_iff depth byDefault hgraph hmem, fun marks ↦ ?_,
    fun larger ρ added kept hlarger hencloses hsilent hkept hid ↦ ?_⟩
  · have hbuilt := hgraph.remark declaration.id marks
    have hmem' := Graph.mem_remark declaration.id marks hmem
    rw [Declaration.remark_self] at hmem'
    exact ⟨hbuilt, hmem', (inheritedExposure_eq_iff depth byDefault hbuilt hmem').2
      (hgraph.grants_remark hmem marks hgrants)⟩
  · exact (inheritedExposure_eq_iff depth byDefault hlarger hkept).2
      (hencloses.grants_of_grants hlarger.wellFormed (Marks.sets_nothing_iff.2 hsilent) hgraph hmem
        hgrants hkept hid)

end Run

namespace Document

/-- A hidden structure of a visible module, in a name scope of a hidden module whose mark does not
read. -/
def strayed : Document where
  modules := [⟨"core", [⟨"hidden", none⟩]⟩, ⟨"api", [⟨"visible", none⟩]⟩]
  declarations :=
    [⟨"outer", "namespace", "core", none, none, [⟨"nonsense", none⟩]⟩,
     ⟨"outer::Leaf", "struct", "api", some "outer", none, [⟨"hidden", none⟩]⟩]

/-- The structure among the strayed. -/
def strayedLeaf : Declaration :=
  ⟨⟨2⟩, "outer::Leaf", .record, ⟨2⟩, some ⟨1⟩, none, [⟨"hidden", none⟩]⟩

/-- The graph of the strayed. -/
def strayedGraph : Graph where
  modules := [⟨⟨1⟩, "core", [⟨"hidden", none⟩]⟩, ⟨⟨2⟩, "api", [⟨"visible", none⟩]⟩]
  declarations :=
    [⟨⟨1⟩, "outer", .scope, ⟨1⟩, none, none, [⟨"nonsense", none⟩]⟩, strayedLeaf]

/-- A name scope that contradicts itself. -/
def tornScope : Declaration :=
  ⟨⟨1⟩, "outer::inner", .scope, ⟨1⟩, some ⟨2⟩, none, [⟨"visible", none⟩, ⟨"hidden", none⟩]⟩

/-- The strayed, with the torn scope put around the structure. -/
def torn : Document where
  modules := strayed.modules
  declarations :=
    [⟨"outer::inner", "namespace", "core", some "outer", none,
       [⟨"visible", none⟩, ⟨"hidden", none⟩]⟩,
     ⟨"outer", "namespace", "core", none, none, [⟨"nonsense", none⟩]⟩,
     ⟨"outer::Leaf", "struct", "api", some "outer::inner", none, [⟨"hidden", none⟩]⟩]

/-- The graph with the torn scope. -/
def tornGraph : Graph where
  modules := strayedGraph.modules
  declarations :=
    [tornScope,
     ⟨⟨2⟩, "outer", .scope, ⟨1⟩, none, none, [⟨"nonsense", none⟩]⟩,
     ⟨⟨3⟩, "outer::Leaf", .record, ⟨2⟩, some ⟨1⟩, none, [⟨"hidden", none⟩]⟩]

theorem tornGraph_encloses :
    tornGraph.Encloses (fun id ↦ ⟨id.number + 1⟩) strayedGraph tornScope where
  modules := rfl
  added_mem := by decide
  kept := by decide

/-- The structure inherits from its own module, past the scopes that set nothing and whatever the
module of the scopes says; its own marks do not matter, and the torn scope changes nothing. -/
theorem strayedGraph_grants :
    strayedGraph.Grants false ⟨2⟩ (some ⟨1⟩) true ∧
      (Run.ofGraph (strayedGraph.remark ⟨2⟩ []) 64 false).inheritedExposure
        { strayedLeaf with marks := [] } = true ∧
      (Run.ofGraph tornGraph 64 false).inheritedExposure
        ⟨⟨3⟩, "outer::Leaf", .record, ⟨2⟩, some ⟨1⟩, none, [⟨"hidden", none⟩]⟩ = true := by
  have hbuilt : strayedGraph.Built :=
    built_of_toGraph (show strayed.toGraph = .ok strayedGraph from rfl)
  have htorn : tornGraph.Built := built_of_toGraph (show torn.toGraph = .ok tornGraph from rfl)
  have hmem : strayedLeaf ∈ strayedGraph.declarations := by decide
  have hvisible : (Run.ofGraph strayedGraph 64 false).inheritedExposure strayedLeaf = true := rfl
  obtain ⟨hgrants, hown, hkept⟩ := Run.inheritedExposure_exact 64 false hbuilt hmem
  refine ⟨(hgrants true).1 hvisible, (hown []).2.2.trans hvisible, ?_⟩
  exact (hkept tornGraph _ tornScope _ htorn tornGraph_encloses (.inr (.inl rfl)) (by decide)
    rfl).trans hvisible

end Document
end Exposure
