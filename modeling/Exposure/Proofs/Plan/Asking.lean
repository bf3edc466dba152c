import Exposure.Proofs.Annotation.Marks
import Exposure.Proofs.Graph.Nesting
import Exposure.Proofs.Plan.Outcomes
import Exposure.Plan.Decision

/-!
# Who asks for what

The theory of plans is told in terms of the graph alone. A declaration **inherits** exposure from
what surrounds it; a bindable declaration is **visible** by its own marks or, without any, by its
surroundings; an alias **requests** the declaration its chain ends at. The requesters of a
target, in traversal order, decide under which name and in which module it is emitted.

None of these notions mentions a run. What connects them with one is that a run looks up the
same things by identity (`Run.inheritedExposure_ofGraph`, `Run.isHidden_ofGraph`), provided the
marks read.

Inheritance is given twice. `Graph.Inherits` reads outward from scope to scope without a bound;
`Graph.inherits` computes with the list of scopes. On built graphs the two agree
(`Built.inherits_iff`).
-/

namespace Exposure

/-! ### Chain targets -/

namespace Alias

/-- A walk that completes a chain ends at a declaration of the graph that is no alias. -/
theorem target_of_walk {graph : Graph} {start : Declaration} {limit room : Nat}
    {path : List Declaration} {current : Declaration} {chain : Chain}
    (h : walk graph start limit room path current = .ok chain) :
    chain.target ∈ graph.declarations ∧ chain.target.isAlias = false := by
  fun_induction walk graph start limit room path current with
  | case1 | case3 | case4 => cases h
  | case2 room path current next hnext halias =>
    cases h
    exact ⟨List.mem_of_find?_eq_some hnext, by simpa using halias⟩
  | case5 path current next hnext halias hnew room ih => exact ih h

/-- A chain ends at a declaration of the graph that is no alias. -/
theorem target_of_resolve {graph : Graph} {depth : Nat} {declaration : Declaration}
    (hmem : declaration ∈ graph.declarations) {chain : Chain}
    (h : resolve graph depth declaration = .ok chain) :
    chain.target ∈ graph.declarations ∧ chain.target.isAlias = false := by
  rw [resolve] at h
  split at h
  · exact target_of_walk h
  · rename_i halias
    cases h
    exact ⟨hmem, by simpa using halias⟩

end Alias

/-! ### The vocabulary of plans -/

namespace Graph

/-- The exposure that a declaration inherits: that of the nearest name scope around it which
decides one, else that of its own module's scope, else the default. -/
def inherits (graph : Graph) (byDefault : Bool) (declaration : Declaration) : Bool :=
  let around := (graph.enclosingScopes declaration).findSome? fun scope ↦
    Marks.decision? scope.marks
  let atModule := (graph.module? declaration.module).bind fun module ↦
    Marks.decision? module.marks
  (around.or atModule).getD byDefault

/-- **Inherited exposure, read outward.** In the given module a place inside `next` has the
exposure that the innermost scope decides; where that one decides none, the exposure of the
place outside of it; and outside of all scopes that of the module's own scope, or the default
where not even that one decides. Scopes may belong to other modules; the module does not change
on the way. -/
inductive Inherits (graph : Graph) (byDefault : Bool) (module : ModuleId) :
    Option DeclId → Bool → Prop
  | decided {id : DeclId} {scope : Declaration} {visible : Bool}
      (found : graph.declaration? id = some scope)
      (decides : Marks.decision? scope.marks = some visible) :
      Inherits graph byDefault module (some id) visible
  | passed {id : DeclId} {scope : Declaration} {visible : Bool}
      (found : graph.declaration? id = some scope)
      (silent : Marks.decision? scope.marks = none)
      (outside : Inherits graph byDefault module scope.parent visible) :
      Inherits graph byDefault module (some id) visible
  | atModule {scope : Module} {visible : Bool} (found : graph.module? module = some scope)
      (decides : Marks.decision? scope.marks = some visible) :
      Inherits graph byDefault module none visible
  | nowhere {scope : Module} (found : graph.module? module = some scope)
      (silent : Marks.decision? scope.marks = none) :
      Inherits graph byDefault module none byDefault

/-- The declaration that the alias chain of a declaration ends at, if it ends. -/
def target? (graph : Graph) (depth : Nat) (declaration : Declaration) : Option Declaration :=
  (Alias.resolve graph depth declaration).toOption.map (·.target)

/-- The module that the first `expose_here` mark of a declaration designates: the one it names,
or without a name the declaration's own. -/
def site? (graph : Graph) (declaration : Declaration) : Option ModuleId :=
  (Marks.destination? declaration.marks).bind fun
    | .ownModule => some declaration.module
    | .named name => (graph.moduleNamed name).map (·.id)

/-- Whether a declaration is visible by its surroundings: its own marks say nothing about
exposure and it inherits it. -/
def isImplicit (graph : Graph) (byDefault : Bool) (declaration : Declaration) : Bool :=
  !declaration.asksExposure && !declaration.carries .hidden &&
    graph.inherits byDefault declaration

/-- Whether a declaration is visible by itself: by its own mark, or by its surroundings. -/
def isVisible (graph : Graph) (byDefault : Bool) (declaration : Declaration) : Bool :=
  declaration.carries .visible || graph.isImplicit byDefault declaration

/-- Whether an alias requests a target: its chain ends there, it is not hidden itself, and it
asks for exposure or inherits it. -/
def requests (graph : Graph) (depth : Nat) (byDefault : Bool) (asking target : Declaration) :
    Bool :=
  asking.isAlias && decide (graph.target? depth asking = some target) &&
    !asking.carries .hidden && (asking.asksExposure || graph.isImplicit byDefault asking)

/-- The aliases that request a target, in traversal order. -/
def requesters (graph : Graph) (depth : Nat) (byDefault : Bool) (target : Declaration) :
    List Declaration :=
  graph.traversal.filter fun asking ↦ graph.requests depth byDefault asking target

/-- The request of an alias. -/
def request (graph : Graph) (byDefault : Bool) (asking : Declaration) : Alias.Request where
  aliasId := asking.id
  qualifiedName := asking.name
  name := asking.shortName
  module := asking.module
  forward := asking.carries .visible
  encourage := asking.carries .encourage
  relocateTo := graph.site? asking
  implicit := graph.isImplicit byDefault asking

/-- The target of a declaration is that of its chain. -/
theorem target?_eq_some {graph : Graph} {depth : Nat} {declaration target : Declaration} :
    graph.target? depth declaration = some target ↔
      ∃ chain, Alias.resolve graph depth declaration = .ok chain ∧ chain.target = target := by
  rw [target?, Option.map_eq_some_iff]
  rcases Alias.resolve graph depth declaration with problem | chain
  · simp [Except.toOption]
  · simp [Except.toOption]

theorem target?_mem {graph : Graph} {depth : Nat} {declaration target : Declaration}
    (hmem : declaration ∈ graph.declarations) (h : graph.target? depth declaration = some target) :
    target ∈ graph.declarations := by
  obtain ⟨chain, hchain, rfl⟩ := target?_eq_some.1 h
  exact (Alias.target_of_resolve hmem hchain).1

/-- Where a site is designated, an `expose_here` mark is carried. -/
theorem carries_exposeHere_of_site? {graph : Graph} {declaration : Declaration} {site : ModuleId}
    (h : graph.site? declaration = some site) : declaration.carries .exposeHere := by
  obtain ⟨destination, hdestination, -⟩ := Option.bind_eq_some_iff.1 h
  rw [Declaration.carries, ← Marks.isSome_destination?, hdestination]
  rfl

/-! ### Inheritance -/

/-- Along a complete chain of scopes the two readings agree. -/
theorem Nested.inherits_iff {graph : Graph} {byDefault : Bool} {module : ModuleId}
    {scope : Module} (hmodule : graph.module? module = some scope) {next : Option DeclId}
    {scopes : List Declaration} (h : graph.Nested next scopes) {visible : Bool} :
    graph.Inherits byDefault module next visible ↔
      ((scopes.findSome? fun scope ↦ Marks.decision? scope.marks).or
        (Marks.decision? scope.marks)).getD byDefault = visible := by
  induction h with
  -- The induction goes outwards along the scopes, so the module is the last to decide.
  | top =>
    constructor
    · rintro (- | - | ⟨found, decides⟩ | ⟨found, silent⟩)
      · obtain rfl := Option.some.inj (hmodule.symm.trans found)
        simp [decides]
      · obtain rfl := Option.some.inj (hmodule.symm.trans found)
        simp [silent]
    · rintro rfl
      rcases hdecision : Marks.decision? scope.marks with - | visible
      · exact .nowhere hmodule hdecision
      · exact .atModule hmodule hdecision
  | @inside id inner scopes found _ ih =>
    rcases hdecision : Marks.decision? inner.marks with - | decided
    · -- A silent scope passes the question on.
      rw [List.findSome?_cons, hdecision, ← ih]
      constructor
      · rintro (⟨found', decides⟩ | ⟨found', -, outside⟩)
        · obtain rfl := Option.some.inj (found.symm.trans found')
          rw [hdecision] at decides
          cases decides
        · obtain rfl := Option.some.inj (found.symm.trans found')
          exact outside
      · exact .passed found hdecision
    · -- A scope that decides is not passed, whatever stands outside.
      rw [List.findSome?_cons, hdecision]
      constructor
      · rintro (⟨found', decides⟩ | ⟨found', silent, -⟩)
        · obtain rfl := Option.some.inj (found.symm.trans found')
          exact Option.some.inj (hdecision.symm.trans decides)
        · obtain rfl := Option.some.inj (found.symm.trans found')
          rw [hdecision] at silent
          cases silent
      · rintro rfl
        exact .decided found hdecision

/-- **On a built graph the computed exposure is the one read outward.** -/
theorem Built.inherits_iff {graph : Graph} (h : graph.Built) (byDefault : Bool)
    {declaration : Declaration} (hmem : declaration ∈ graph.declarations) {visible : Bool} :
    graph.Inherits byDefault declaration.module declaration.parent visible ↔
      graph.inherits byDefault declaration = visible := by
  obtain ⟨module, hmodule, hid⟩ := h.wellFormed.owned declaration hmem
  have hfound : graph.module? declaration.module = some module :=
    h.wellFormed.module?_eq_some.2 ⟨hmodule, hid⟩
  rw [(h.nested_enclosingScopes hmem).inherits_iff hfound, inherits, hfound]
  rfl

/-! ### Marks that read -/

/-- Every mark of every declaration and of every module reads. -/
structure MarksRead (graph : Graph) : Prop where
  declarations : ∀ declaration ∈ graph.declarations, ∀ mark ∈ declaration.marks,
    ∃ item, mark.read declaration.name (.declaration declaration.kind) = .ok item
  modules : ∀ module ∈ graph.modules, ∀ mark ∈ module.marks,
    ∃ item, mark.read module.name .moduleScope = .ok item

theorem MarksRead.annotations {graph : Graph} (h : graph.MarksRead) {declaration : Declaration}
    (hmem : declaration ∈ graph.declarations) :
    ∃ annotations, declaration.annotations = .ok annotations :=
  Annotations.exists_read_eq_ok.2 (h.declarations declaration hmem)

theorem MarksRead.moduleAnnotations {graph : Graph} (h : graph.MarksRead) {module : Module}
    (hmem : module ∈ graph.modules) : ∃ annotations, module.annotations = .ok annotations :=
  Annotations.exists_read_eq_ok.2 (h.modules module hmem)

/-- A directive with a payload may stand on the declaration that carries it. -/
theorem MarksRead.allowedOn_of_mem_payloads {graph : Graph} (h : graph.MarksRead)
    {declaration : Declaration} (hmem : declaration ∈ graph.declarations) {directive : Directive}
    {text : String} (htext : text ∈ Marks.payloads declaration.marks directive) :
    directive.allowedOn (.declaration declaration.kind) := by
  obtain ⟨annotations, hannotations⟩ := h.annotations hmem
  exact Annotations.allowedOn_of_read hannotations (Marks.carry_of_mem_payloads htext)

theorem enclosingScopes_subset {graph : Graph} (hgraph : graph.WellFormed)
    (declaration : Declaration) : graph.enclosingScopes declaration ⊆ graph.declarations := by
  suffices h : ∀ steps next, graph.climb steps next ⊆ graph.declarations from h _ _
  intro steps
  induction steps with
  | zero => exact fun _ ↦ List.nil_subset _
  | succ steps ih =>
    rintro (- | id)
    · exact List.nil_subset _
    · rw [climb]
      split
      · rename_i scope hfound
        exact List.cons_subset.2 ⟨(hgraph.declaration?_eq_some.1 hfound).1, ih _⟩
      · exact List.nil_subset _

end Graph

namespace Annotations

/-- Annotations decide the exposure that the marks decide. -/
theorem decision?_of_read {owner : String} {site : Site} {marks : List Mark}
    {annotations : Annotations} (h : read owner site marks = .ok annotations) :
    annotations.standing.decision? = Marks.decision? marks := by
  rw [standing, asksExposure_of_read h, has_of_read h, Marks.decision?]
  cases Marks.askExposure marks <;> cases Marks.carry marks .hidden <;> rfl

end Annotations

/-! ### What a run looks up -/

namespace Run

@[simp]
theorem graph_ofGraph (graph : Graph) (depth : Nat) (byDefault : Bool) :
    (Run.ofGraph graph depth byDefault).graph = graph := rfl

@[simp]
theorem chains_ofGraph (graph : Graph) (depth : Nat) (byDefault : Bool) :
    (Run.ofGraph graph depth byDefault).chains = Alias.resolveAll graph depth := rfl

@[simp]
theorem exposesByDefault_ofGraph (graph : Graph) (depth : Nat) (byDefault : Bool) :
    (Run.ofGraph graph depth byDefault).exposesByDefault = byDefault := rfl

variable {graph : Graph} (hgraph : graph.WellFormed) (depth : Nat) (byDefault : Bool)
include hgraph

/-- A run finds the annotations of a declaration, or its problems. -/
theorem atDeclaration_ofGraph {declaration : Declaration}
    (hmem : declaration ∈ graph.declarations) :
    (Run.ofGraph graph depth byDefault).extraction.atDeclaration declaration.id =
      Extraction.sides declaration.annotations :=
  Extraction.atDeclaration_process hgraph.nodup_declaration_ids hmem

/-- A run finds the annotations of a module scope, or its problems. -/
theorem atModule_ofGraph {module : Module} (hmem : module ∈ graph.modules) :
    (Run.ofGraph graph depth byDefault).extraction.atModule module.id =
      Extraction.sides module.annotations :=
  Extraction.atModule_process hgraph.nodup_module_ids hmem

theorem get?_store_ofGraph {declaration : Declaration}
    (hmem : declaration ∈ graph.declarations) {annotations : Annotations}
    (hread : declaration.annotations = .ok annotations) :
    (Run.ofGraph graph depth byDefault).extraction.store.get? declaration.id =
      some annotations := by
  have h := congrArg Prod.fst (atDeclaration_ofGraph hgraph depth byDefault hmem)
  rw [hread] at h
  exact h

theorem getModule?_store_ofGraph {module : Module} (hmem : module ∈ graph.modules)
    {annotations : Annotations} (hread : module.annotations = .ok annotations) :
    (Run.ofGraph graph depth byDefault).extraction.store.getModule? module.id =
      some annotations := by
  have h := congrArg Prod.fst (atModule_ofGraph hgraph depth byDefault hmem)
  rw [hread] at h
  exact h

/-- Where the marks read, a run lets a declaration inherit what the graph does. -/
theorem inheritedExposure_ofGraph (hread : graph.MarksRead) {declaration : Declaration}
    (hmem : declaration ∈ graph.declarations) :
    (Run.ofGraph graph depth byDefault).inheritedExposure declaration =
      graph.inherits byDefault declaration := by
  obtain ⟨module, hmodule, hid⟩ := hgraph.owned declaration hmem
  have hfound : graph.module? declaration.module = some module :=
    hgraph.module?_eq_some.2 ⟨hmodule, hid⟩
  obtain ⟨atModule, hatModule⟩ := hread.moduleAnnotations hmodule
  have hscope : ∀ scope ∈ graph.enclosingScopes declaration,
      ((Run.ofGraph graph depth byDefault).extraction.store.get? scope.id).bind
        (·.standing.decision?) = Marks.decision? scope.marks := by
    intro scope hscope
    have hdeclared := Graph.enclosingScopes_subset hgraph declaration hscope
    obtain ⟨annotations, hannotations⟩ := hread.annotations hdeclared
    rw [get?_store_ofGraph hgraph depth byDefault hdeclared hannotations]
    exact Annotations.decision?_of_read hannotations
  rw [inheritedExposure, Graph.inherits, hfound, graph_ofGraph, exposesByDefault_ofGraph, ← hid,
    getModule?_store_ofGraph hgraph depth byDefault hmodule hatModule]
  -- Both sides take the first decision along the same scopes.
  simp only [← List.head?_filterMap, List.filterMap_append, List.filterMap_filterMap]
  rw [List.filterMap_congr hscope, List.head?_append]
  congr 2
  rw [List.head?_filterMap, Option.toList_some, List.findSome?_singleton]
  exact Annotations.decision?_of_read hatModule

/-- Where marks do not conflict, a run hides what the marks hide. -/
theorem isHidden_ofGraph (hread : graph.MarksRead) {declaration : Declaration}
    (hmem : declaration ∈ graph.declarations) (hagrees : ¬ Marks.conflict declaration.marks) :
    (Run.ofGraph graph depth byDefault).isHidden declaration = declaration.carries .hidden := by
  obtain ⟨annotations, hannotations⟩ := hread.annotations hmem
  have hstanding := Annotations.standing_eq_hidden_of_read hannotations
  rw [isHidden, get?_store_ofGraph hgraph depth byDefault hmem hannotations, Option.any_some,
    Bool.eq_iff_iff, decide_eq_true_iff, hstanding]
  exact and_iff_right (by simpa using hagrees)

end Run
end Exposure
