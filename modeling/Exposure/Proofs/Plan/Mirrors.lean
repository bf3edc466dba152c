import Exposure.Proofs.Alias.Renumbering
import Exposure.Proofs.Import.Renumbering
import Exposure.Proofs.Plan.Problems

/-!
# Surveys of renumbered graphs

The survey of a renumbered graph **mirrors** the survey of the graph (`Survey.Mirrors`): it has the
same slots, renumbered, and problems alike in the same order. This is a simulation, visit by visit
(`Survey.Mirrors.make`).

Visits look up by identity what is known of a declaration, and find the same under the renumbered
one. The one place where numbers might show is where a visit passes over a chain problem that is
known: a cycle is told in other words perhaps, and who is to say that it is known in these? But a
graph tells a cycle in the same words always (`Alias.eq_of_alike`), so the problem is known to the
one survey if its like is known to the other (`Survey.Mirrors.reportChain`).
-/

namespace Exposure

/-- A request with its alias renumbered. -/
def Alias.Request.renumber (ρ : DeclId → DeclId) (request : Alias.Request) : Alias.Request :=
  { request with aliasId := ρ request.aliasId }

/-- A slot with its declarations renumbered. -/
def Slot.renumber (ρ : DeclId → DeclId) (slot : Slot) : Slot :=
  { slot with
    target := slot.target.renumber ρ
    requests := slot.requests.map (·.renumber ρ) }

/-- The visit to a renumbered declaration. -/
def Visit.renumber (ρ : DeclId → DeclId) : Visit → Visit
  | scope module => scope module
  | member declaration => member (declaration.renumber ρ)

/-- The records of a level of scope name no declarations. -/
theorem Annotations.records_renumber (ρ : DeclId → DeclId) (module : ModuleId) (owner : String)
    (annotations : Annotations) :
    (annotations.records module owner).renumber ρ = annotations.records module owner := by
  rw [records, Import.Ledger.renumber, List.map_append, List.map_map, List.map_map]
  rfl

/-! ### What is looked up -/

namespace Graph.Renumbered

variable {ρ : DeclId → DeclId} {graph graph' : Graph} (h : Renumbered ρ graph graph')
  (hgraph : graph.WellFormed) (hgraph' : graph'.WellFormed) (depth : Nat) (byDefault : Bool)
include h

/-- The visits of a renumbered graph are the same. -/
theorem visits_eq : graph'.visits = graph.visits.map (Visit.renumber ρ) := by
  rw [visits, visits, h.modules, List.map_flatMap]
  refine List.flatMap_congr fun module _ ↦ ?_
  rw [h.members, List.map_cons, List.map_map, List.map_map]
  rfl

include hgraph

theorem within {visit : Visit} (hvisit : visit.Within graph) :
    (visit.renumber ρ).Within graph' := by
  cases visit with
  | scope module =>
    show module ∈ graph'.modules
    rw [h.modules]
    exact hvisit
  | member declaration => exact h.mem_declarations hgraph hvisit

include hgraph'

/-- The same is held under the identity of a declaration. -/
theorem atDeclaration_eq {declaration : Declaration} (hmem : declaration ∈ graph.declarations) :
    (Run.ofGraph graph' depth byDefault).extraction.atDeclaration (ρ declaration.id) =
      (Run.ofGraph graph depth byDefault).extraction.atDeclaration declaration.id := by
  rw [Run.atDeclaration_ofGraph hgraph depth byDefault hmem]
  exact Run.atDeclaration_ofGraph hgraph' depth byDefault (h.mem_declarations hgraph hmem)

theorem get?_store_eq {declaration : Declaration} (hmem : declaration ∈ graph.declarations) :
    (Run.ofGraph graph' depth byDefault).extraction.store.get? (ρ declaration.id) =
      (Run.ofGraph graph depth byDefault).extraction.store.get? declaration.id :=
  congrArg Prod.fst (h.atDeclaration_eq hgraph hgraph' depth byDefault hmem)

/-- The same is held under the identity of a module. -/
theorem atModule_eq {module : Module} (hmem : module ∈ graph.modules) :
    (Run.ofGraph graph' depth byDefault).extraction.atModule module.id =
      (Run.ofGraph graph depth byDefault).extraction.atModule module.id := by
  rw [Run.atModule_ofGraph hgraph depth byDefault hmem]
  exact Run.atModule_ofGraph hgraph' depth byDefault (h.modules ▸ hmem)

/-- A declaration is hidden in both graphs or in neither. -/
theorem isHidden_eq {declaration : Declaration} (hmem : declaration ∈ graph.declarations) :
    (Run.ofGraph graph' depth byDefault).isHidden (declaration.renumber ρ) =
      (Run.ofGraph graph depth byDefault).isHidden declaration := by
  rw [Run.isHidden, Run.isHidden, Declaration.id_renumber,
    h.get?_store_eq hgraph hgraph' depth byDefault hmem]

/-- **A declaration inherits the same exposure.** -/
theorem inheritedExposure_eq {declaration : Declaration}
    (hmem : declaration ∈ graph.declarations) :
    (Run.ofGraph graph' depth byDefault).inheritedExposure (declaration.renumber ρ) =
      (Run.ofGraph graph depth byDefault).inheritedExposure declaration := by
  obtain ⟨module, hmodule, hid⟩ := hgraph.owned declaration hmem
  have hscopes : ((graph.enclosingScopes declaration).map (·.renumber ρ)).filterMap
      (fun scope ↦ (Run.ofGraph graph' depth byDefault).extraction.store.get? scope.id) =
        (graph.enclosingScopes declaration).filterMap fun scope ↦
          (Run.ofGraph graph depth byDefault).extraction.store.get? scope.id := by
    rw [List.filterMap_map]
    exact List.filterMap_congr fun scope hscope ↦ h.get?_store_eq hgraph hgraph' depth byDefault
      (Graph.enclosingScopes_subset hgraph declaration hscope)
  have hlevel : (Run.ofGraph graph' depth byDefault).extraction.store.getModule? module.id =
      (Run.ofGraph graph depth byDefault).extraction.store.getModule? module.id :=
    congrArg Prod.fst (h.atModule_eq hgraph hgraph' depth byDefault hmodule)
  rw [Run.inheritedExposure, Run.inheritedExposure, Run.graph_ofGraph, Run.graph_ofGraph,
    h.enclosingScopes_eq, hscopes, Declaration.module_renumber, ← hid, hlevel]
  rfl

end Graph.Renumbered

/-- Problems alike concern a chain both or neither. -/
theorem Problem.Alike.concernsChain_eq {problem other : Problem} (h : problem.Alike other) :
    problem.concernsChain = other.concernsChain := by
  cases h <;> rfl

/-! ### Mirroring surveys -/

namespace Survey

/-- **Surveys that mirror each other**: the same slots and the same ledger but for numbers, and
problems alike in the same order. -/
structure Mirrors (ρ : DeclId → DeclId) (survey survey' : Survey) : Prop where
  slots : survey'.slots = survey.slots.map (·.renumber ρ)
  ledger : survey'.ledger = survey.ledger.renumber ρ
  problems : List.Forall₂ Problem.Alike survey.problems survey'.problems

/-- What a survey knows of alias chains is what walks have come to. -/
def Knows (graph : Graph) (depth : Nat) (survey : Survey) : Prop :=
  ∀ problem ∈ survey.problems, problem.concernsChain →
    ∃ start ∈ graph.declarations, start.isAlias ∧
      Alias.resolve graph depth start = .error problem

theorem knows_foldl_make {graph : Graph} (hgraph : graph.WellFormed) (depth : Nat)
    (byDefault : Bool) {visits : List Visit} (hvisits : ∀ visit ∈ visits, visit.Within graph) :
    (visits.foldl (make (Run.ofGraph graph depth byDefault)) .empty).Knows graph depth := by
  intro problem hproblem hchain
  have hmem : problem ∈
      (visits.foldl (make (Run.ofGraph graph depth byDefault)) .empty).chainProblems :=
    List.mem_filter.2 ⟨hproblem, hchain⟩
  rw [chainProblems_foldl_make hgraph depth byDefault hvisits, List.mem_eraseDups,
    List.mem_filterMap] at hmem
  obtain ⟨visit, hvisit, hsome⟩ := hmem
  cases visit with
  | scope module => cases hsome
  | member start =>
    exact ⟨start, hvisits _ hvisit, Graph.chainProblem?_eq_some.1 hsome⟩

/-- What is alike to a chain problem is known in its words only. -/
theorem Knows.eq_of_alike {graph : Graph} (hgraph : graph.WellFormed) {depth : Nat}
    {survey : Survey} (hknows : survey.Knows graph depth) {start : Declaration} {problem : Problem}
    (hproblem : Alias.resolve graph depth start = .error problem) (hstart : start.isAlias) :
    ∀ known ∈ survey.problems, known.Alike problem → known = problem := by
  intro known hknown hlike
  have hchain := Alias.concernsChain_of_resolve hstart hproblem
  obtain ⟨other, -, hother, hcomes⟩ :=
    hknows known hknown (hlike.concernsChain_eq.trans hchain)
  exact Alias.eq_of_alike hgraph hother hstart hcomes hproblem hlike

/-- Problems of other kinds add nothing to what is known of alias chains. -/
theorem Knows.report {graph : Graph} {depth : Nat} {survey : Survey}
    (h : survey.Knows graph depth) {problems : List Problem}
    (hother : ∀ problem ∈ problems, problem.concernsChain = false) :
    (survey.report problems).Knows graph depth := by
  intro problem hproblem hchain
  rcases List.mem_append.1 hproblem with hproblem | hproblem
  · exact h problem hproblem hchain
  · rw [hother problem hproblem] at hchain
    cases hchain

/-- A change of the slot of a target is the same change under other numbers. -/
theorem changeSlot_renumber {ρ : DeclId → DeclId} (hinjective : Function.Injective ρ)
    {run run' : Run} {target : Declaration} {change change' : Slot → Slot}
    (hhidden : run'.isHidden (target.renumber ρ) = run.isHidden target)
    (hchange : ∀ slot : Slot, change' (slot.renumber ρ) = (change slot).renumber ρ)
    (slots : List Slot) :
    changeSlot run' (target.renumber ρ) change' (slots.map (·.renumber ρ)) =
      (changeSlot run target change slots).map (·.renumber ρ) := by
  induction slots with
  | nil =>
    rw [List.map_nil, changeSlot, changeSlot, hhidden]
    exact congrArg (· :: []) (hchange ⟨target, false, run.isHidden target, []⟩)
  | cons slot rest ih =>
    rw [List.map_cons, changeSlot, changeSlot]
    have hids : (slot.renumber ρ).target.id = (target.renumber ρ).id ↔
        slot.target.id = target.id := hinjective.eq_iff
    by_cases hsame : slot.target.id = target.id
    · rw [if_pos hsame, if_pos (hids.2 hsame), hchange, List.map_cons]
    · rw [if_neg hsame, if_neg (mt hids.1 hsame), ih, List.map_cons]

namespace Mirrors

variable {ρ : DeclId → DeclId} {survey survey' : Survey} (h : Mirrors ρ survey survey')
include h

theorem report (problems : List Problem) :
    Mirrors ρ (survey.report problems) (survey'.report problems) :=
  ⟨h.slots, h.ledger, List.rel_append h.problems (List.forall₂_same.2 fun _ _ ↦ .same _)⟩

theorem recordScope (module : ModuleId) (owner : String) (annotations : Annotations) :
    Mirrors ρ (survey.recordScope module owner annotations)
      (survey'.recordScope module owner annotations) :=
  ⟨h.slots, by rw [ledger_recordScope, ledger_recordScope, h.ledger,
    Import.Ledger.renumber_append, Annotations.records_renumber], h.problems⟩

/-- **A chain problem is known to both surveys or to neither**, as each graph tells what is alike in
the same words. -/
theorem reportChain {problem problem' : Problem} (halike : problem.Alike problem')
    (hsame : ∀ known ∈ survey.problems, known.Alike problem → known = problem)
    (hsame' : ∀ known ∈ survey'.problems, known.Alike problem' → known = problem') :
    Mirrors ρ (survey.reportChain problem) (survey'.reportChain problem') := by
  have hknown : problem ∈ survey.problems ↔ problem' ∈ survey'.problems := by
    constructor
    · intro hmem
      obtain ⟨known, hknown, hlike⟩ := exists_mem_of_forall₂ h.problems hmem
      rwa [hsame' known hknown (hlike.symm.trans halike)] at hknown
    · intro hmem
      obtain ⟨known, hknown, hlike⟩ := exists_mem_of_forall₂ h.problems.flip hmem
      have hlike : known.Alike problem' := hlike
      rwa [hsame known hknown (hlike.trans halike.symm)] at hknown
  rw [Survey.reportChain, Survey.reportChain]
  by_cases hmem : problem ∈ survey.problems
  · rw [if_pos hmem, if_pos (hknown.1 hmem)]
    exact h
  · rw [if_neg hmem, if_neg (mt hknown.2 hmem)]
    exact ⟨h.slots, h.ledger, List.rel_append h.problems (.cons halike .nil)⟩

theorem expose (hinjective : Function.Injective ρ) {run run' : Run} {target : Declaration}
    (hhidden : run'.isHidden (target.renumber ρ) = run.isHidden target) :
    Mirrors ρ (survey.expose run target) (survey'.expose run' (target.renumber ρ)) := by
  refine ⟨?_, h.ledger, h.problems⟩
  rw [Survey.expose, Survey.expose, h.slots]
  refine changeSlot_renumber hinjective hhidden (fun slot ↦ ?_) _
  rfl

theorem request (hinjective : Function.Injective ρ) {run run' : Run} {target : Declaration}
    (hhidden : run'.isHidden (target.renumber ρ) = run.isHidden target)
    (asked : Alias.Request) :
    Mirrors ρ (survey.request run target asked)
      (survey'.request run' (target.renumber ρ) (asked.renumber ρ)) := by
  refine ⟨?_, h.ledger, h.problems⟩
  rw [Survey.request, Survey.request, h.slots]
  refine changeSlot_renumber hinjective hhidden (fun slot ↦ ?_) _
  rw [Slot.renumber, Slot.renumber, List.map_append]
  rfl

theorem visitScope (declaration : Declaration) (annotations : Annotations) :
    Mirrors ρ (survey.visitScope declaration annotations)
      (survey'.visitScope (declaration.renumber ρ) annotations) := by
  unfold Survey.visitScope
  dsimp only
  split
  · exact (h.report _).recordScope ..
  · exact h.recordScope ..

theorem visitBindable (hinjective : Function.Injective ρ) {run run' : Run}
    {declaration : Declaration} (annotations : Annotations)
    (hhidden : run'.isHidden (declaration.renumber ρ) = run.isHidden declaration)
    (hinherits : run'.inheritedExposure (declaration.renumber ρ) =
      run.inheritedExposure declaration) :
    Mirrors ρ (survey.visitBindable run declaration annotations)
      (survey'.visitBindable run' (declaration.renumber ρ) annotations) := by
  have hrecorded := h.recordScope declaration.module declaration.name annotations
  unfold Survey.visitBindable
  dsimp only
  rw [hinherits]
  cases annotations.standing with
  | visible => exact hrecorded.expose hinjective hhidden
  | hidden => exact hrecorded
  | unset =>
    dsimp only
    split
    · exact hrecorded.expose hinjective hhidden
    · exact hrecorded
  | conflict => exact hrecorded.report _

section Renumbered

omit h

variable {graph graph' : Graph} (hrenumbered : Graph.Renumbered ρ graph graph')
  (hgraph : graph.WellFormed) (hgraph' : graph'.WellFormed) (depth : Nat) (byDefault : Bool)
include hrenumbered hgraph hgraph'

/-- What an alias asks for is the same, renumbered. -/
theorem requestOf_renumber {declaration : Declaration} (hmem : declaration ∈ graph.declarations)
    (annotations : Annotations) (site : Option ModuleId) :
    requestOf (Run.ofGraph graph' depth byDefault) (declaration.renumber ρ) annotations site =
      (requestOf (Run.ofGraph graph depth byDefault) declaration annotations site).renumber ρ := by
  rw [requestOf, hrenumbered.inheritedExposure_eq hgraph hgraph' depth byDefault hmem]
  rfl

theorem visitBinding (h : Mirrors ρ survey survey') {declaration target : Declaration}
    (hmem : declaration ∈ graph.declarations) (htarget : target ∈ graph.declarations)
    (annotations : Annotations) :
    Mirrors ρ
      (survey.visitBinding (Run.ofGraph graph depth byDefault) declaration annotations target)
      (survey'.visitBinding (Run.ofGraph graph' depth byDefault) (declaration.renumber ρ)
        annotations (target.renumber ρ)) := by
  have hsite : emissionSite (Run.ofGraph graph' depth byDefault) (declaration.renumber ρ)
      annotations = emissionSite (Run.ofGraph graph depth byDefault) declaration annotations := by
    unfold emissionSite
    simp only [Run.graph_ofGraph, hrenumbered.moduleNamed_eq, Declaration.module_renumber]
  -- Where an alias leads is written down before anything is asked of the target.
  have hwritten : Mirrors ρ
      { survey with aliasTargets := survey.aliasTargets.insert declaration.id target.id }
      { survey' with
        aliasTargets := survey'.aliasTargets.insert (ρ declaration.id) (ρ target.id) } :=
    ⟨h.slots, h.ledger, h.problems⟩
  unfold Survey.visitBinding
  dsimp only
  rw [hsite]
  split
  · exact hwritten
  · split
    · exact hwritten.report _
    · rw [requestOf_renumber hrenumbered hgraph hgraph' depth byDefault hmem]
      generalize requestOf (Run.ofGraph graph depth byDefault) declaration annotations _ = asked
      have hasks : ((asked.renumber ρ).isExplicit || (asked.renumber ρ).implicit) =
          (asked.isExplicit || asked.implicit) := rfl
      rw [hasks]
      have hhidden := hrenumbered.isHidden_eq hgraph hgraph' depth byDefault htarget
      by_cases hmade : (asked.isExplicit || asked.implicit) = true
      · rw [if_pos hmade, if_pos hmade]
        exact hwritten.request hrenumbered.injective hhidden asked
      · rw [if_neg hmade, if_neg hmade]
        exact hwritten

theorem visitAlias (h : Mirrors ρ survey survey') {declaration : Declaration}
    (hmem : declaration ∈ graph.declarations) (annotations : Annotations) :
    Mirrors ρ (survey.visitAlias (Run.ofGraph graph depth byDefault) declaration annotations)
      (survey'.visitAlias (Run.ofGraph graph' depth byDefault) (declaration.renumber ρ)
        annotations) := by
  have hmem' := hrenumbered.mem_declarations hgraph hmem
  have hmirrors := Alias.mirrors_resolve hrenumbered hgraph hgraph' depth declaration
  have hend (chain : Alias.Chain) (hchain : Alias.resolve graph depth declaration = .ok chain) :=
    Alias.target_of_resolve hmem hchain
  unfold Survey.visitAlias
  rw [get?_chains_ofGraph hgraph depth byDefault hmem,
    get?_chains_ofGraph hgraph' depth byDefault hmem', Declaration.isAlias_renumber]
  by_cases hconflict : annotations.standing = .conflict
  · rw [if_pos hconflict, if_pos hconflict]
    exact h.report _
  · rw [if_neg hconflict, if_neg hconflict]
    by_cases halias : declaration.isAlias
    · rw [if_pos halias, if_pos halias]
      generalize Alias.resolve graph depth declaration = result at hmirrors hend ⊢
      generalize Alias.resolve graph' depth (declaration.renumber ρ) = result' at hmirrors ⊢
      -- A chain that stops asks for nothing; one that ends leads to targets that mirror each other.
      cases hmirrors with
      | stopped => exact h
      | complete chain =>
        have hbinds : (chain.renumber ρ).target.kind.isBindable = true ↔
            chain.target.kind.isBindable = true := Iff.rfl
        dsimp only
        by_cases hbindable : chain.target.kind.isBindable = true
        · rw [if_pos hbindable, if_pos (hbinds.2 hbindable)]
          exact visitBinding hrenumbered hgraph hgraph' depth byDefault h hmem (hend _ rfl).1 _
        · rw [if_neg hbindable, if_neg (mt hbinds.1 hbindable)]
          exact h
    · rw [if_neg halias, if_neg halias]
      exact h

/-- **What is known of a declaration beforehand mirrors itself.** -/
theorem reportKnown (h : Mirrors ρ survey survey') (hknows : survey.Knows graph depth)
    (hknows' : survey'.Knows graph' depth) {declaration : Declaration}
    (hmem : declaration ∈ graph.declarations) :
    Mirrors ρ (survey.reportKnown (Run.ofGraph graph depth byDefault) declaration)
      (survey'.reportKnown (Run.ofGraph graph' depth byDefault) (declaration.renumber ρ)) := by
  have hmem' := hrenumbered.mem_declarations hgraph hmem
  obtain ⟨-, hmarks⟩ :=
    Prod.mk.inj (hrenumbered.atDeclaration_eq hgraph hgraph' depth byDefault hmem)
  obtain ⟨-, hproblems⟩ := Prod.mk.inj (Run.atDeclaration_ofGraph hgraph depth byDefault hmem)
  -- What is known of the marks has no problem of a chain, so it does not interfere with what is
  -- known of chains.
  have hother : ∀ problem ∈
      ((Run.ofGraph graph depth byDefault).extraction.declarationProblems.get?
        declaration.id).getD [], problem.concernsChain = false := by
    intro problem hproblem
    rw [hproblems] at hproblem
    exact Extraction.concernsChain_eq_false_of_mem_sides _ _ _ hproblem
  have hmirrors := Alias.mirrors_resolve hrenumbered hgraph hgraph' depth declaration
  have hreported := h.report
    (((Run.ofGraph graph depth byDefault).extraction.declarationProblems.get?
      declaration.id).getD [])
  have hknows := hknows.report hother
  have hknows' := hknows'.report hother
  unfold Survey.reportKnown
  rw [get?_chains_ofGraph hgraph depth byDefault hmem,
    get?_chains_ofGraph hgraph' depth byDefault hmem', Declaration.isAlias_renumber,
    Declaration.id_renumber, hmarks]
  dsimp only
  by_cases halias : declaration.isAlias
  · rw [if_pos halias, if_pos halias]
    generalize hresolve : Alias.resolve graph depth declaration = result at hmirrors ⊢
    generalize hresolve' :
      Alias.resolve graph' depth (declaration.renumber ρ) = result' at hmirrors ⊢
    -- Chains that end alike are reported by both or by none.
    cases hmirrors with
    | stopped halike =>
      exact hreported.reportChain halike (hknows.eq_of_alike hgraph hresolve halias)
        (hknows'.eq_of_alike hgraph' hresolve' halias)
    | complete chain => exact hreported
  · rw [if_neg halias, if_neg halias]
    exact hreported

theorem visit (h : Mirrors ρ survey survey') (hknows : survey.Knows graph depth)
    (hknows' : survey'.Knows graph' depth) {declaration : Declaration}
    (hmem : declaration ∈ graph.declarations) :
    Mirrors ρ (survey.visit (Run.ofGraph graph depth byDefault) declaration)
      (survey'.visit (Run.ofGraph graph' depth byDefault) (declaration.renumber ρ)) := by
  have hreported :=
    reportKnown hrenumbered hgraph hgraph' depth byDefault h hknows hknows' hmem
  have hbindable (annotations : Annotations) := hreported.visitBindable hrenumbered.injective
    annotations (hrenumbered.isHidden_eq hgraph hgraph' depth byDefault hmem)
    (hrenumbered.inheritedExposure_eq hgraph hgraph' depth byDefault hmem)
  unfold Survey.visit
  rw [Declaration.id_renumber, hrenumbered.get?_store_eq hgraph hgraph' depth byDefault hmem,
    Declaration.kind_renumber]
  dsimp only
  rcases (Run.ofGraph graph depth byDefault).extraction.store.get? declaration.id with
    - | annotations
  · exact hreported
  · cases declaration.kind with
    | scope => exact hreported.visitScope declaration annotations
    | typeAlias =>
      exact visitAlias hrenumbered hgraph hgraph' depth byDefault hreported hmem annotations
    | record => exact hbindable annotations
    | function => exact hbindable annotations
    | enumeration => exact hbindable annotations

theorem visitModule (h : Mirrors ρ survey survey') {module : Module}
    (hmem : module ∈ graph.modules) :
    Mirrors ρ (survey.visitModule (Run.ofGraph graph depth byDefault) module)
      (survey'.visitModule (Run.ofGraph graph' depth byDefault) module) := by
  obtain ⟨hlevel, hproblems⟩ :=
    Prod.mk.inj (hrenumbered.atModule_eq hgraph hgraph' depth byDefault hmem)
  have hreported := h.report
    (((Run.ofGraph graph depth byDefault).extraction.moduleProblems.get? module.id).getD [])
  unfold Survey.visitModule
  rw [hlevel, hproblems]
  dsimp only
  rcases (Run.ofGraph graph depth byDefault).extraction.store.getModule? module.id with
    - | annotations
  · exact hreported
  · dsimp only
    split
    · exact (hreported.report _).recordScope ..
    · exact hreported.recordScope ..

/-- **A visit to the graph and the visit to the renumbered one keep surveys mirrored.** -/
theorem make (h : Mirrors ρ survey survey') (hknows : survey.Knows graph depth)
    (hknows' : survey'.Knows graph' depth) {visit : Visit} (hvisit : visit.Within graph) :
    Mirrors ρ (survey.make (Run.ofGraph graph depth byDefault) visit)
      (survey'.make (Run.ofGraph graph' depth byDefault) (visit.renumber ρ)) := by
  cases visit with
  | scope module => exact visitModule hrenumbered hgraph hgraph' depth byDefault h hvisit
  | member declaration =>
    exact Mirrors.visit hrenumbered hgraph hgraph' depth byDefault h hknows hknows' hvisit

/-- So passes are mirrored. The induction is on the visits made so far, of which the surveys know
what they know. -/
theorem foldl_make {visits : List Visit} (hvisits : ∀ visit ∈ visits, visit.Within graph) :
    Mirrors ρ (visits.foldl (Survey.make (Run.ofGraph graph depth byDefault)) .empty)
      ((visits.map (Visit.renumber ρ)).foldl
        (Survey.make (Run.ofGraph graph' depth byDefault)) .empty) := by
  induction visits using List.reverseRecOn with
  | nil => exact ⟨rfl, rfl, .nil⟩
  | append_singleton earlier visit ih =>
    have hearlier : ∀ visit ∈ earlier, visit.Within graph := fun other hother ↦
      hvisits other (List.mem_append_left _ hother)
    have hearlier' : ∀ visit ∈ earlier.map (Visit.renumber ρ), visit.Within graph' := by
      intro other hother
      obtain ⟨origin, horigin, rfl⟩ := List.mem_map.1 hother
      exact hrenumbered.within hgraph (hearlier origin horigin)
    rw [List.map_append, List.foldl_append, List.foldl_append]
    exact make hrenumbered hgraph hgraph' depth byDefault (ih hearlier)
      (knows_foldl_make hgraph depth byDefault hearlier)
      (knows_foldl_make hgraph' depth byDefault hearlier')
      (hvisits visit (List.mem_append_right _ (List.mem_singleton_self visit)))

/-- **The survey of a renumbered graph mirrors the survey of the graph.** -/
theorem ofRun :
    Mirrors ρ (Survey.ofRun (Run.ofGraph graph depth byDefault))
      (Survey.ofRun (Run.ofGraph graph' depth byDefault)) := by
  rw [ofRun_eq, ofRun_eq, Run.graph_ofGraph, Run.graph_ofGraph, hrenumbered.visits_eq]
  exact foldl_make hrenumbered hgraph hgraph' depth byDefault fun visit hvisit ↦
    hgraph.mem_visits.1 hvisit

end Renumbered

end Mirrors
end Survey
end Exposure
