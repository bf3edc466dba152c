import Exposure.Proofs.Plan.Decided

/-!
# Stages of a run

A run looks for problems three times: while it visits, when it decides the slots, and when it
settles the ledger. Each time it can come upon problems of certain kinds only, and no kind is looked
for twice (`Problem.stage`). So what a report says of one kind can be told from one stage.

That visits report problems of their own stage goes by induction on the visits: every step of a
visit adds such problems only (`Survey.Visiting`).
-/

namespace Exposure

/-- When a run looks for a problem. -/
inductive Problem.Stage where
  /-- While it visits the modules and declarations. -/
  | visits
  /-- When it decides the slots. -/
  | slots
  /-- When it settles the ledger. -/
  | ledger
  deriving DecidableEq, Repr

/-- The stage at which problems of a kind come up. -/
def Problem.stage : Problem → Stage
  | malformedMark .. | unknownTag .. | cyclicAlias .. | aliasChainTooLong .. | unresolvedAlias ..
  | conflictingVisibility .. => .visits
  | ambiguousEncouragement .. | duplicateEmission .. => .slots
  | missingImportDeclaration .. | danglingImport .. => .ledger

/-! ### Slots and ledger -/

/-- What is wrong with a slot comes up when slots are decided. -/
theorem Slot.stage_of_problem? {graph : Graph} {slot : Slot} {problem : Problem}
    (h : (slot.verdict graph).problem? = some problem) : problem.stage = .slots := by
  unfold verdict at h
  split at h
  · cases h
  · split at h
    · rename_i found hname
      obtain rfl := Option.some.inj h
      unfold Alias.chooseName at hname
      split at hname <;> cases hname
      rfl
    · cases h
    · split at h
      · obtain rfl := Option.some.inj h
        rfl
      · cases h

/-- What is wrong with a ledger comes up when it is settled. -/
theorem Import.Ledger.stage_of_mem_settle {graph : Graph} {ledger : Ledger} {problem : Problem}
    (h : problem ∈ (settle graph ledger).problems) : problem.stage = .ledger := by
  obtain ⟨module, -, hmodule⟩ := List.mem_flatMap.1 h
  rcases List.mem_append.1 hmodule with hdangling | hmissing
  · obtain ⟨name, -, rfl⟩ := List.mem_map.1 hdangling
    rfl
  · obtain ⟨name, -, rfl⟩ := List.mem_map.1 hmissing
    rfl

/-! ### Visits -/

/-- What reading marks leaves in problems is wrong with a tag or with a directive. -/
theorem Extraction.of_mem_sides {owner : String} {site : Site} {marks : List Mark}
    {problem : Problem} (h : problem ∈ (sides (Annotations.read owner site marks)).2.getD []) :
    (∃ tag, problem = .unknownTag owner tag) ∨
      ∃ directive reason, problem = .malformedMark owner directive reason := by
  rcases hread : Annotations.read owner site marks with found | annotations
  · rw [hread, Annotations.of_read_eq_error hread] at h
    exact Annotations.of_mem_problems h
  · rw [hread] at h
    cases h

/-- What is wrong with marks comes up at a visit. -/
theorem Extraction.stage_of_mem_sides (owner : String) (site : Site) (marks : List Mark)
    {problem : Problem} (h : problem ∈ (sides (Annotations.read owner site marks)).2.getD []) :
    problem.stage = .visits := by
  rcases of_mem_sides h with ⟨_, rfl⟩ | ⟨_, _, rfl⟩ <;> rfl

/-- Whatever stops a walk comes up at a visit. -/
theorem Alias.stage_of_walk {graph : Graph} {start : Declaration} {limit room : Nat}
    {path : List Declaration} {current : Declaration} {problem : Problem}
    (h : walk graph start limit room path current = .error problem) : problem.stage = .visits := by
  fun_induction walk graph start limit room path current with
  | case1 | case3 | case4 =>
    cases h
    rfl
  | case2 => cases h
  | case5 path current next hnext halias hnew room ih => exact ih h

namespace Survey

/-- What a survey knows to be wrong came up at visits. -/
def Visiting (survey : Survey) : Prop := ∀ problem ∈ survey.problems, problem.stage = .visits

namespace Visiting

variable {run : Run} {survey : Survey} {declaration : Declaration} {annotations : Annotations}

theorem report (h : survey.Visiting) {problems : List Problem}
    (hnew : ∀ problem ∈ problems, problem.stage = .visits) : (survey.report problems).Visiting :=
  List.forall_mem_append.2 ⟨h, hnew⟩

/-- One problem more of the stage. -/
theorem report_one (h : survey.Visiting) {problem : Problem} (hstage : problem.stage = .visits) :
    (survey.report [problem]).Visiting :=
  h.report (List.forall_mem_singleton.2 hstage)

theorem reportChain (h : survey.Visiting) {problem : Problem} (hstage : problem.stage = .visits) :
    (survey.reportChain problem).Visiting := by
  rw [Survey.reportChain]
  split
  · exact h
  · exact h.report_one hstage

theorem visitScope (h : survey.Visiting) :
    (survey.visitScope declaration annotations).Visiting := by
  unfold Survey.visitScope
  dsimp only
  split
  · exact h.report_one rfl
  · exact h

theorem visitBindable (h : survey.Visiting) :
    (survey.visitBindable run declaration annotations).Visiting := by
  unfold Survey.visitBindable
  dsimp only
  split
  · exact h
  · exact h
  · split <;> exact h
  · exact h.report_one rfl

theorem visitBinding (h : survey.Visiting) {target : Declaration} :
    (survey.visitBinding run declaration annotations target).Visiting := by
  unfold Survey.visitBinding
  dsimp only
  split
  · exact h
  · split
    · exact h.report_one rfl
    · split <;> exact h

theorem visitAlias (h : survey.Visiting) :
    (survey.visitAlias run declaration annotations).Visiting := by
  unfold Survey.visitAlias
  split
  · exact h.report_one rfl
  · split
    · split
      · exact h.visitBinding
      · exact h
    · exact h

section OfGraph

variable {graph : Graph} (hgraph : graph.WellFormed) (depth : Nat) (byDefault : Bool)
include hgraph

/-- What is known of a declaration before its annotations are seen comes up at visits. -/
theorem reportKnown (h : survey.Visiting) (hmem : declaration ∈ graph.declarations) :
    (survey.reportKnown (Run.ofGraph graph depth byDefault) declaration).Visiting := by
  obtain ⟨-, hproblems⟩ := Prod.mk.inj (Run.atDeclaration_ofGraph hgraph depth byDefault hmem)
  rw [Survey.reportKnown, hproblems, get?_chains_ofGraph hgraph depth byDefault hmem]
  have hmarks := h.report fun _ ↦ Extraction.stage_of_mem_sides declaration.name
    (.declaration declaration.kind) declaration.marks
  by_cases halias : declaration.isAlias
  · rw [if_pos halias]
    rcases hresolve : Alias.resolve graph depth declaration with problem | chain
    · rw [Alias.resolve, if_pos halias] at hresolve
      exact hmarks.reportChain (Alias.stage_of_walk hresolve)
    · exact hmarks
  · rw [if_neg halias]
    exact hmarks

/-- **A visit adds problems of its own stage.** -/
theorem make (h : survey.Visiting) {visit : Visit} (hvisit : visit.Within graph) :
    (survey.make (Run.ofGraph graph depth byDefault) visit).Visiting := by
  cases visit with
  | member declaration =>
    have hknown := h.reportKnown hgraph depth byDefault hvisit
    rw [Survey.make, visit]
    split
    · exact hknown
    · split
      · exact hknown.visitScope
      · exact hknown.visitAlias
      all_goals exact hknown.visitBindable
  | scope module =>
    obtain ⟨-, hproblems⟩ := Prod.mk.inj (Run.atModule_ofGraph hgraph depth byDefault hvisit)
    have hmarks := h.report fun _ ↦
      Extraction.stage_of_mem_sides module.name .moduleScope module.marks
    rw [Survey.make, visitModule, hproblems]
    split
    · exact hmarks
    · dsimp only
      split
      · exact hmarks.report_one rfl
      · exact hmarks

/-- The visits of a run report problems of their own stage. -/
theorem ofRun : (Survey.ofRun (Run.ofGraph graph depth byDefault)).Visiting := by
  rw [ofRun_eq, Run.graph_ofGraph]
  have hempty : Survey.empty.Visiting := by simp [Visiting, Survey.empty]
  exact List.foldlRecOn graph.visits (Survey.make (Run.ofGraph graph depth byDefault)) hempty
    fun survey h visit hvisit ↦ h.make hgraph depth byDefault (hgraph.mem_visits.1 hvisit)

end OfGraph
end Visiting
end Survey

/-! ### The report of a run -/

/-- The problems that a run reports; where there is a plan there are none. -/
def Run.problems (run : Run) : List Problem :=
  match run.plan with
  | .ok _ => []
  | .error problems => problems

/-- A run reports the problems of its visits, then those of its slots, then those of its ledger. -/
theorem Run.problems_eq (run : Run) :
    run.problems = (Survey.ofRun run).problems ++
      ((Survey.ofRun run).verdicts run.graph).filterMap (·.problem?) ++
        (Import.Ledger.settle run.graph ((Survey.ofRun run).fullLedger run.graph)).problems := by
  rw [problems, plan, Plan.ofSurvey]
  split
  · rename_i hplan
    split at hplan
    · rename_i hnil
      exact hnil.symm
    · cases hplan
  · rename_i hplan
    split at hplan
    · cases hplan
    · exact (Except.error.inj hplan).symm

namespace Run

/-- What a run finds wrong at a stage. -/
def problemsAt (run : Run) : Problem.Stage → List Problem
  | .visits => (Survey.ofRun run).problems
  | .slots => ((Survey.ofRun run).verdicts run.graph).filterMap (·.problem?)
  | .ledger => (Import.Ledger.settle run.graph ((Survey.ofRun run).fullLedger run.graph)).problems

variable {graph : Graph} (hgraph : graph.WellFormed) (depth : Nat) (byDefault : Bool)
include hgraph

/-- **At each stage come up the problems of that stage.** -/
theorem stage_of_mem_problemsAt {stage : Problem.Stage} {problem : Problem}
    (h : problem ∈ (ofGraph graph depth byDefault).problemsAt stage) : problem.stage = stage := by
  cases stage with
  | visits => exact Survey.Visiting.ofRun hgraph depth byDefault problem h
  | slots =>
    obtain ⟨verdict, hverdict, hproblem⟩ := List.mem_filterMap.1 h
    obtain ⟨slot, -, rfl⟩ := List.mem_map.1 hverdict
    exact Slot.stage_of_problem? hproblem
  | ledger => exact Import.Ledger.stage_of_mem_settle h

/-- **Of the kinds that one stage looks for, a report says what that stage finds.** -/
theorem filter_problems_of_stage {stage : Problem.Stage} {p : Problem → Bool}
    (hp : ∀ problem, p problem → problem.stage = stage) :
    (ofGraph graph depth byDefault).problems.filter p =
      ((ofGraph graph depth byDefault).problemsAt stage).filter p := by
  have hother (other : Problem.Stage) (hne : other ≠ stage) :
      ((ofGraph graph depth byDefault).problemsAt other).filter p = [] := by
    refine List.filter_eq_nil_iff.2 fun problem hproblem hkind ↦ hne ?_
    rw [← stage_of_mem_problemsAt hgraph depth byDefault hproblem, hp problem hkind]
  have hstages : (ofGraph graph depth byDefault).problems =
      (ofGraph graph depth byDefault).problemsAt .visits ++
        (ofGraph graph depth byDefault).problemsAt .slots ++
          (ofGraph graph depth byDefault).problemsAt .ledger := problems_eq _
  rw [hstages, List.filter_append, List.filter_append]
  cases stage with
  | visits =>
    rw [hother .slots (by decide), hother .ledger (by decide), List.append_nil, List.append_nil]
  | slots =>
    rw [hother .visits (by decide), hother .ledger (by decide), List.nil_append, List.append_nil]
  | ledger =>
    rw [hother .visits (by decide), hother .slots (by decide), List.nil_append, List.nil_append]

/-- A problem is reported exactly if its stage finds it. -/
theorem mem_problems_iff_mem_problemsAt {problem : Problem} :
    problem ∈ (ofGraph graph depth byDefault).problems ↔
      problem ∈ (ofGraph graph depth byDefault).problemsAt problem.stage := by
  have hsame : ∀ other, decide (other = problem) → other.stage = problem.stage := by
    intro other hother
    rw [of_decide_eq_true hother]
  have hfilter := congrArg (problem ∈ ·) (filter_problems_of_stage hgraph depth byDefault hsame)
  simpa using hfilter

end Run
end Exposure
