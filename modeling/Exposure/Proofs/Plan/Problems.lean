import Exposure.Proofs.Alias.Walks
import Exposure.Proofs.Document.Built
import Exposure.Proofs.Plan.Stages

/-!
# Problems of alias chains

A run reports what is wrong with its alias chains exactly once (`Run.chain_problems_once`): each
cycle within the limit, each alias that points at nothing, and each alias from which more aliases
can be met than the limit allows. Other problems of these kinds it does not report.

Every alias is walked from by itself, so many walks come upon the same cycle or the same dangling
alias. That the report says so once is due to the visits, which pass over a chain problem that is
known (`Survey.chainProblems_foldl_make`), and to cycles being told from their lowest member
(`Alias.fromLowest_congr`). Visits report chain problems before they look at annotations, and
nothing else that a run reports is of these kinds, so annotations have no part in any of this.
-/

namespace Exposure

/-- Whether a problem is one of alias chains. -/
def Problem.concernsChain : Problem → Bool
  | cyclicAlias .. | aliasChainTooLong .. | unresolvedAlias .. => true
  | _ => false

/-- Whether a problem reports a cycle of aliases, from whichever member. -/
def Problem.reportsCycle (cycle : Cycle Declaration) : Problem → Bool
  | cyclicAlias names => (names : Cycle String) = cycle.map (·.name)
  | _ => false

/-- Visits look for the problems of chains. -/
theorem Problem.stage_of_concernsChain {problem : Problem} (h : problem.concernsChain) :
    problem.stage = .visits := by
  cases problem <;> first | rfl | cases h

/-- What reading marks leaves in problems concerns no chain. -/
theorem Extraction.concernsChain_eq_false_of_mem_sides (owner : String) (site : Site)
    (marks : List Mark) {problem : Problem}
    (h : problem ∈ (sides (Annotations.read owner site marks)).2.getD []) :
    problem.concernsChain = false := by
  rcases of_mem_sides h with ⟨_, rfl⟩ | ⟨_, _, rfl⟩ <;> rfl

/-- Whatever stops a walk concerns the chain. -/
theorem Alias.concernsChain_of_resolve {graph : Graph} {depth : Nat} {start : Declaration}
    {problem : Problem} (halias : start.isAlias)
    (h : resolve graph depth start = .error problem) : problem.concernsChain := by
  have houtcome := outcome_resolve graph depth halias
  rw [h] at houtcome
  rcases houtcome with _ | _ | _ | _ <;> rfl

/-! ### Chain problems of a pass -/

/-- The problem of the alias chain that starts at a declaration, if there is one. -/
def Graph.chainProblem? (graph : Graph) (depth : Nat) (declaration : Declaration) :
    Option Problem :=
  if declaration.isAlias then
    match Alias.resolve graph depth declaration with
    | .error problem => some problem
    | .ok _ => none
  else none

theorem Graph.chainProblem?_eq_some {graph : Graph} {depth : Nat} {declaration : Declaration}
    {problem : Problem} :
    graph.chainProblem? depth declaration = some problem ↔
      declaration.isAlias ∧ Alias.resolve graph depth declaration = .error problem := by
  rw [chainProblem?, Option.ite_none_right_eq_some]
  cases Alias.resolve graph depth declaration <;> simp

/-- The chain problem that a visit comes upon; that of a module scope comes upon none. -/
def Visit.chainProblem? (graph : Graph) (depth : Nat) : Visit → Option Problem
  | scope _ => none
  | member declaration => graph.chainProblem? depth declaration

namespace Survey

/-- The chain problems among those of a survey. -/
def chainProblems (survey : Survey) : List Problem := survey.problems.filter (·.concernsChain)

/-- Adds a chain problem to those of a survey, unless it is known. -/
def addChainProblem (known : List Problem) : Option Problem → List Problem
  | none => known
  | some problem => if problem ∈ known then known else known ++ [problem]

theorem chainProblems_report (survey : Survey) {problems : List Problem}
    (h : ∀ problem ∈ problems, problem.concernsChain = false) :
    (survey.report problems).chainProblems = survey.chainProblems := by
  have hnone : problems.filter (·.concernsChain) = [] := by
    refine List.filter_eq_nil_iff.2 fun problem hmem ↦ ?_
    rw [h problem hmem]
    exact Bool.false_ne_true
  rw [chainProblems, problems_report, List.filter_append, hnone, List.append_nil]
  rfl

theorem chainProblems_reportChain (survey : Survey) {problem : Problem}
    (h : problem.concernsChain) :
    (survey.reportChain problem).chainProblems =
      addChainProblem survey.chainProblems (some problem) := by
  have hknown : problem ∈ survey.chainProblems ↔ problem ∈ survey.problems := by
    rw [chainProblems, List.mem_filter]
    exact and_iff_left h
  rw [reportChain, addChainProblem]
  by_cases hmem : problem ∈ survey.problems
  · rw [if_pos hmem, if_pos (hknown.2 hmem)]
  · rw [if_neg hmem, if_neg fun h ↦ hmem (hknown.1 h), chainProblems, problems_report,
      List.filter_append, List.filter_cons_of_pos h]
    rfl

@[simp]
theorem chainProblems_visitScope (survey : Survey) (declaration : Declaration)
    (annotations : Annotations) :
    (survey.visitScope declaration annotations).chainProblems = survey.chainProblems := by
  unfold visitScope
  dsimp only
  split
  · exact chainProblems_report survey (by simp [Problem.concernsChain])
  · rfl

@[simp]
theorem chainProblems_visitBindable (run : Run) (survey : Survey) (declaration : Declaration)
    (annotations : Annotations) :
    (survey.visitBindable run declaration annotations).chainProblems = survey.chainProblems := by
  unfold visitBindable
  dsimp only
  split
  · rfl
  · rfl
  · split <;> rfl
  · exact chainProblems_report _ (by simp [Problem.concernsChain])

@[simp]
theorem chainProblems_visitAlias (run : Run) (survey : Survey) (declaration : Declaration)
    (annotations : Annotations) :
    (survey.visitAlias run declaration annotations).chainProblems = survey.chainProblems := by
  unfold visitAlias
  split
  · exact chainProblems_report survey (by simp [Problem.concernsChain])
  · split
    · split
      · unfold visitBinding
        dsimp only
        split
        · rfl
        · split
          · exact chainProblems_report _ (by simp [Problem.concernsChain])
          · split <;> rfl
      · rfl
    · rfl

section OfGraph

variable {graph : Graph} (hgraph : graph.WellFormed) (depth : Nat) (byDefault : Bool)
include hgraph

/-- What is known of a declaration before its annotations are seen adds the problem of its chain,
if that is new. -/
theorem chainProblems_reportKnown (survey : Survey) {declaration : Declaration}
    (hmem : declaration ∈ graph.declarations) :
    (survey.reportKnown (Run.ofGraph graph depth byDefault) declaration).chainProblems =
      addChainProblem survey.chainProblems (graph.chainProblem? depth declaration) := by
  obtain ⟨-, hproblems⟩ := Prod.mk.inj (Run.atDeclaration_ofGraph hgraph depth byDefault hmem)
  rw [reportKnown, hproblems, get?_chains_ofGraph hgraph depth byDefault hmem,
    Graph.chainProblem?]
  have hmarks := chainProblems_report survey
    fun _ ↦ Extraction.concernsChain_eq_false_of_mem_sides declaration.name
      (.declaration declaration.kind) declaration.marks
  by_cases halias : declaration.isAlias
  · rw [if_pos halias, if_pos halias]
    rcases hresolve : Alias.resolve graph depth declaration with problem | chain
    · rw [← hmarks]
      exact chainProblems_reportChain _ (Alias.concernsChain_of_resolve halias hresolve)
    · exact hmarks
  · rw [if_neg halias, if_neg halias]
    exact hmarks

/-- **A visit adds the chain problem it comes upon**, unless it is known. -/
theorem chainProblems_make (survey : Survey) {visit : Visit} (hvisit : visit.Within graph) :
    (survey.make (Run.ofGraph graph depth byDefault) visit).chainProblems =
      addChainProblem survey.chainProblems (visit.chainProblem? graph depth) := by
  cases visit with
  | member declaration =>
    rw [make, visit, Visit.chainProblem?,
      ← chainProblems_reportKnown hgraph depth byDefault survey hvisit]
    split
    · rfl
    · split <;> simp
  | scope module =>
    obtain ⟨-, hproblems⟩ := Prod.mk.inj (Run.atModule_ofGraph hgraph depth byDefault hvisit)
    have hmarks := chainProblems_report survey
      fun _ ↦ Extraction.concernsChain_eq_false_of_mem_sides module.name .moduleScope module.marks
    rw [make, visitModule, hproblems, Visit.chainProblem?, addChainProblem]
    split
    · exact hmarks
    · dsimp only
      split
      · exact (chainProblems_report _ (by simp [Problem.concernsChain])).trans hmarks
      · exact hmarks

/-- **A pass knows each chain problem once**, in the order of the visits that come upon it. -/
theorem chainProblems_foldl_make {visits : List Visit}
    (hvisits : ∀ visit ∈ visits, visit.Within graph) :
    (visits.foldl (make (Run.ofGraph graph depth byDefault)) .empty).chainProblems =
      (visits.filterMap (Visit.chainProblem? graph depth)).eraseDups := by
  induction visits using List.reverseRecOn with
  | nil => rfl
  | append_singleton visits visit ih =>
    rw [List.foldl_append, List.foldl_cons, List.foldl_nil,
      chainProblems_make hgraph depth byDefault _ (hvisits visit (by simp)),
      ih fun other hother ↦ hvisits other (List.mem_append_left _ hother), List.filterMap_append]
    rcases hproblem : visit.chainProblem? graph depth with - | problem
    · simp [addChainProblem, hproblem]
    · rw [List.filterMap_cons_some hproblem, List.filterMap_nil, eraseDups_concat, addChainProblem]
      simp only [List.mem_eraseDups]

end OfGraph
end Survey

/-! ### Chain problems of a run -/

namespace Run

variable {graph : Graph} (hgraph : graph.WellFormed) {depth : Nat} {byDefault : Bool}
include hgraph

/-- The chain problems of a run are those of its visits: slots and ledger add none. -/
theorem filter_problems :
    (ofGraph graph depth byDefault).problems.filter (·.concernsChain) =
      (graph.visits.filterMap (Visit.chainProblem? graph depth)).eraseDups := by
  rw [filter_problems_of_stage hgraph depth byDefault fun _ ↦ Problem.stage_of_concernsChain,
    ← Survey.chainProblems_foldl_make hgraph depth byDefault
      fun visit hvisit ↦ hgraph.mem_visits.1 hvisit, problemsAt, Survey.ofRun_eq]
  rfl

/-- **A chain problem is reported exactly if some alias comes to it.** -/
theorem mem_problems_iff {problem : Problem} (hchain : problem.concernsChain) :
    problem ∈ (ofGraph graph depth byDefault).problems ↔
      ∃ start ∈ graph.declarations, start.isAlias ∧
        Alias.resolve graph depth start = .error problem := by
  have hfilter : problem ∈ (ofGraph graph depth byDefault).problems ↔
      problem ∈ (ofGraph graph depth byDefault).problems.filter (·.concernsChain) := by
    rw [List.mem_filter]
    exact (and_iff_left hchain).symm
  rw [hfilter, filter_problems hgraph, List.mem_eraseDups, List.mem_filterMap]
  constructor
  · rintro ⟨visit, hvisit, hproblem⟩
    cases visit with
    | scope module => cases hproblem
    | member start =>
      exact ⟨start, hgraph.mem_visits.1 hvisit, Graph.chainProblem?_eq_some.1 hproblem⟩
  · rintro ⟨start, hmem, hstart⟩
    exact ⟨.member start, hgraph.mem_visits.2 hmem, Graph.chainProblem?_eq_some.2 hstart⟩

/-- **A chain problem is reported once**, however many aliases come to it. -/
theorem count_problems {start : Declaration} (hmem : start ∈ graph.declarations)
    (halias : start.isAlias) {problem : Problem}
    (h : Alias.resolve graph depth start = .error problem) :
    (ofGraph graph depth byDefault).problems.count problem = 1 := by
  have hchain := Alias.concernsChain_of_resolve halias h
  have hreported : problem ∈ (ofGraph graph depth byDefault).problems.filter (·.concernsChain) :=
    List.mem_filter.2 ⟨(mem_problems_iff hgraph hchain).2 ⟨start, hmem, halias, h⟩, hchain⟩
  rw [← List.count_filter hchain]
  refine List.count_eq_one_of_mem ?_ hreported
  rw [filter_problems hgraph]
  exact nodup_eraseDups _

/-- **A cycle within the limit is reported once**: whatever reports it does so in the same
words. -/
theorem countP_reportsCycle {cycle : Cycle Declaration} (hcycle : graph.IsCycle cycle)
    (hwithin : cycle.length ≤ max 1 depth) :
    (ofGraph graph depth byDefault).problems.countP (·.reportsCycle cycle) = 1 := by
  induction cycle using Quotient.inductionOn with
  | h members =>
    have hdeclared : ∀ one ∈ members, one ∈ graph.declarations := fun one hone ↦
      hcycle.mem_declarations (Cycle.mem_coe_iff.2 hone)
    have hids := hcycle.nodup_ids hgraph
    -- Any member of the cycle is walked from, and its report is in the list once.
    obtain ⟨first, hfirst⟩ := List.exists_mem_of_ne_nil members fun hnil ↦
      hcycle.nonempty (hnil ▸ Cycle.coe_nil)
    have halias : first.isAlias := hcycle.isAlias (Cycle.mem_coe_iff.2 hfirst)
    have hresolve := Alias.resolve_of_isCycle hcycle hids hwithin hfirst
    have honce : (ofGraph graph depth byDefault).problems.count _ = 1 :=
      count_problems hgraph (hdeclared first hfirst) halias hresolve
    rw [← honce, List.count_eq_countP]
    refine List.countP_congr fun problem hproblem ↦ ?_
    rw [beq_iff_eq]
    constructor
    · intro hreports
      cases problem with
      | cyclicAlias names =>
        obtain ⟨start, -, hstart, hfound⟩ := (mem_problems_iff hgraph rfl).1 hproblem
        obtain ⟨others, hothers, -, rfl⟩ := Alias.of_resolve_eq_cyclic hstart hfound
        -- Another report of a cycle with these names has the same lowest member, so it is the same.
        have hnames : (others : Cycle Declaration).map (·.name) =
            (members : Cycle Declaration).map (·.name) := by
          rw [← Alias.coe_fromLowest others, Cycle.map_coe]
          exact of_decide_eq_true hreports
        rw [Alias.fromLowest_congr hids (hothers.eq_of_map_name hgraph hcycle hnames).symm]
      | _ => cases hreports
    · rintro rfl
      refine decide_eq_true ?_
      rw [← Cycle.map_coe, Alias.coe_fromLowest]
      rfl

end Run

/-- **Every problem of alias chains is reported exactly once.** The report of a run has one problem
for each cycle within the limit, one for each alias that points at nothing, and one for each alias
from which more aliases are met than the limit; and no other problems of these kinds. -/
theorem Run.chain_problems_once {graph : Graph} (h : graph.Built) (depth : Nat)
    (byDefault : Bool) :
    let problems := (Run.ofGraph graph depth byDefault).problems
    (∀ cycle, graph.IsCycle cycle → cycle.length ≤ max 1 depth →
      problems.countP (·.reportsCycle cycle) = 1) ∧
    (∀ names : List String, .cyclicAlias names ∈ problems →
      ∃ cycle, graph.IsCycle cycle ∧ cycle.length ≤ max 1 depth ∧
        (names : Cycle String) = cycle.map (·.name)) ∧
    (∀ asking ∈ graph.declarations, asking.isAlias → graph.lookup asking.targetText = none →
      problems.count (.unresolvedAlias asking.name asking.targetText) = 1) ∧
    (∀ name target, .unresolvedAlias name target ∈ problems →
      ∃ asking ∈ graph.declarations, asking.isAlias ∧ asking.name = name ∧
        asking.targetText = target ∧ graph.lookup target = none) ∧
    (∀ asking ∈ graph.declarations, asking.isAlias → graph.MeetsMore (max 1 depth) asking →
      problems.count (.aliasChainTooLong asking.name (max 1 depth)) = 1) ∧
    ∀ name limit, .aliasChainTooLong name limit ∈ problems → limit = max 1 depth ∧
      ∃ asking ∈ graph.declarations, asking.isAlias ∧ asking.name = name ∧
        graph.MeetsMore limit asking := by
  have hgraph := h.wellFormed
  intro problems
  refine ⟨fun cycle hcycle hwithin ↦ Run.countP_reportsCycle hgraph hcycle hwithin,
    fun names hnames ↦ ?_, fun asking hmem halias hnone ↦ ?_, fun name target hfound ↦ ?_,
    fun asking hmem halias hmore ↦ ?_, fun name limit hfound ↦ ?_⟩
  · -- Each problem of a run is that of some walk, and what a walk ends with says what it has met.
    obtain ⟨start, -, halias, hresolve⟩ := (Run.mem_problems_iff hgraph rfl).1 hnames
    obtain ⟨members, hcycle, hwithin, rfl⟩ := Alias.of_resolve_eq_cyclic halias hresolve
    refine ⟨members, hcycle, hwithin, ?_⟩
    rw [← Cycle.map_coe, Alias.coe_fromLowest]
  · exact Run.count_problems hgraph hmem halias (Alias.resolve_of_lookup_eq_none halias hnone)
  · obtain ⟨start, hmem, halias, hresolve⟩ := (Run.mem_problems_iff hgraph rfl).1 hfound
    exact Alias.of_resolve_eq_unresolved hmem halias hresolve
  · exact Run.count_problems hgraph hmem halias ((Alias.resolve_eq_tooLong_iff halias).2 hmore)
  · obtain ⟨start, hmem, halias, hresolve⟩ := (Run.mem_problems_iff hgraph rfl).1 hfound
    obtain ⟨rfl, rfl⟩ := Alias.of_resolve_eq_tooLong halias hresolve
    exact ⟨rfl, start, hmem, halias, rfl, (Alias.resolve_eq_tooLong_iff halias).1 hresolve⟩

/-- A document of aliases that lead nowhere: two that conflict and name each other, a third that
leads to them, one that names nothing with another behind it, and a way that is too long for a
limit of two. -/
def Document.tangle : Document where
  modules := [⟨"core", []⟩]
  declarations :=
    [⟨"left", "alias", "core", none, some "right", [⟨"visible", none⟩, ⟨"hidden", none⟩]⟩,
     ⟨"right", "alias", "core", none, some "left", [⟨"hidden", none⟩]⟩,
     ⟨"aside", "alias", "core", none, some "left", [⟨"nonsense", none⟩]⟩,
     ⟨"lost", "alias", "core", none, some "nowhere", []⟩,
     ⟨"behind", "alias", "core", none, some "lost", []⟩,
     ⟨"further", "alias", "core", none, some "behind", []⟩]

/-- The graph of the tangle. -/
def Document.tangleGraph : Graph where
  modules := [⟨⟨1⟩, "core", []⟩]
  declarations :=
    [⟨⟨1⟩, "left", .typeAlias, ⟨1⟩, none, some "right", [⟨"visible", none⟩, ⟨"hidden", none⟩]⟩,
     ⟨⟨2⟩, "right", .typeAlias, ⟨1⟩, none, some "left", [⟨"hidden", none⟩]⟩,
     ⟨⟨3⟩, "aside", .typeAlias, ⟨1⟩, none, some "left", [⟨"nonsense", none⟩]⟩,
     ⟨⟨4⟩, "lost", .typeAlias, ⟨1⟩, none, some "nowhere", []⟩,
     ⟨⟨5⟩, "behind", .typeAlias, ⟨1⟩, none, some "lost", []⟩,
     ⟨⟨6⟩, "further", .typeAlias, ⟨1⟩, none, some "behind", []⟩]

/-- With a limit of two, the run of the tangle reports that one alias names nothing once, though
three chains come to it or are cut off before it. -/
theorem Document.tangleGraph_problems :
    (Run.ofGraph tangleGraph 2 false).problems.count (.unresolvedAlias "lost" "nowhere") = 1 ∧
      .cyclicAlias ["left", "right"] ∈ (Run.ofGraph tangleGraph 2 false).problems ∧
      .aliasChainTooLong "further" 2 ∈ (Run.ofGraph tangleGraph 2 false).problems := by
  have hbuilt : tangleGraph.Built :=
    built_of_toGraph (show tangle.toGraph = .ok tangleGraph from rfl)
  have hlost : (⟨⟨4⟩, "lost", .typeAlias, ⟨1⟩, none, some "nowhere", []⟩ : Declaration) ∈
      tangleGraph.declarations := by simp [tangleGraph]
  obtain ⟨-, -, hunresolved, -⟩ := Run.chain_problems_once hbuilt 2 false
  exact ⟨hunresolved _ hlost rfl rfl, by decide +kernel, by decide +kernel⟩

end Exposure
