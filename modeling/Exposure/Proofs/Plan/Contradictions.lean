import Exposure.Proofs.Plan.Alike
import Exposure.Proofs.Plan.Stages
import Exposure.Proofs.Plan.Validity

/-!
# Contradictions among the aliases of a target

The aliases of a target can contradict each other in two ways: two of them are encouraged to name
it, or two of them designate different modules to emit it in. On an orderly graph the report of a
run has at most one problem of either kind for a target, with everything that takes part in it in
order, and it says nothing of sites where names contradict each other
(`Run.contradictions_of_target`). So a target with both kinds of contradiction is reported with one
of them only (`Document.contestedGraph_one_of_two`).
-/

namespace Exposure

/-- Whether a problem is that aliases of a target contradict each other about its name. -/
def Problem.isAmbiguityOf (target : String) : Problem → Bool
  | ambiguousEncouragement name _ => name = target
  | _ => false

/-- Whether a problem is that aliases of a target contradict each other about its place. -/
def Problem.isDuplicationOf (target : String) : Problem → Bool
  | duplicateEmission name _ => name = target
  | _ => false

namespace Graph

/-- The aliases of a target that are not hidden, in traversal order. -/
def openAliases (graph : Graph) (depth : Nat) (target : Declaration) : List Declaration :=
  graph.traversal.filter fun asking ↦
    asking.isAlias && decide (graph.target? depth asking = some target) && !asking.carries .hidden

/-- The aliases of a target that are encouraged to name it, in traversal order. -/
def encouraged (graph : Graph) (depth : Nat) (target : Declaration) : List Declaration :=
  (graph.openAliases depth target).filter (·.carries .encourage)

/-- The modules that aliases of a target designate, in the order of the first that does. -/
def designated (graph : Graph) (depth : Nat) (target : Declaration) : List ModuleId :=
  ((graph.openAliases depth target).filterMap graph.site?).eraseDups

/-- What the aliases of a target contradict each other about, if they do. -/
def contradiction? (graph : Graph) (depth : Nat) (target : Declaration) : Option Problem :=
  if 2 ≤ (graph.encouraged depth target).length then
    some (.ambiguousEncouragement target.name ((graph.encouraged depth target).map (·.name)))
  else if 2 ≤ (graph.designated depth target).length then
    some (.duplicateEmission target.name ((graph.designated depth target).map graph.moduleName))
  else none

variable {graph : Graph} {depth : Nat} {byDefault : Bool} {target : Declaration}

/-- **An alias that asks for exposure requests its target** exactly if it is not hidden. -/
theorem requests_eq_of_asksExposure {asking : Declaration} (hasks : asking.asksExposure) :
    graph.requests depth byDefault asking target =
      (asking.isAlias && decide (graph.target? depth asking = some target) &&
        !asking.carries .hidden) := by
  rw [requests, hasks, Bool.true_or, Bool.and_true]

/-- The requesters that are encouraged are the aliases that are. -/
theorem filter_encourage_requesters :
    (graph.requesters depth byDefault target).filter (·.carries .encourage) =
      graph.encouraged depth target := by
  rw [requesters, encouraged, openAliases, List.filter_filter, List.filter_filter]
  refine List.filter_congr fun asking _ ↦ ?_
  by_cases hencourage : asking.carries .encourage
  · rw [requests_eq_of_asksExposure (Marks.askExposure_iff.2 (.inr (.inl hencourage)))]
  · rw [Bool.not_eq_true] at hencourage
    rw [hencourage, Bool.false_and, Bool.false_and]

/-- The sites that requesters designate are those that aliases do. -/
theorem filterMap_site?_requesters :
    (graph.requesters depth byDefault target).filterMap graph.site? =
      (graph.openAliases depth target).filterMap graph.site? := by
  rw [requesters, openAliases, List.filterMap_filter, List.filterMap_filter]
  refine List.filterMap_congr fun asking _ ↦ ?_
  rcases hsite : graph.site? asking with - | site
  · rw [ite_self, ite_self]
  · have hcarries := carries_exposeHere_of_site? hsite
    rw [requests_eq_of_asksExposure (Marks.askExposure_iff.2 (.inr (.inr hcarries)))]

/-- **What is wrong with the slot of a shown target** is what its aliases contradict each other
about. -/
theorem problem?_slot_eq (hshown : ¬ target.carries .hidden) :
    ((graph.slot depth byDefault target).verdict graph).problem? =
      graph.contradiction? depth target := by
  have hencouraged : (graph.slot depth byDefault target).requests.filter (·.encourage) =
      (graph.encouraged depth target).map (graph.request byDefault) := by
    rw [← filter_encourage_requesters]
    exact List.filter_map
  have hsites : (graph.slot depth byDefault target).sites.map (·.1) =
      graph.designated depth target := by
    rw [Slot.map_fst_sites, designated, ← filterMap_site?_requesters, slot, List.filterMap_map]
    rfl
  have hlength : (graph.slot depth byDefault target).sites.length =
      (graph.designated depth target).length := by
    rw [← hsites, List.length_map]
  have hhidden : (graph.slot depth byDefault target).hidden = false := by simpa [slot] using hshown
  rw [Slot.problem?_verdict_eq hhidden, hlength, hsites, hencouraged, List.length_map, List.map_map,
    contradiction?]
  rfl

/-- Of a target that nobody wants exposed there is nothing to contradict each other about. -/
theorem contradiction?_eq_none_of_not_mem_wanted (hgraph : graph.WellFormed)
    (hmem : target ∈ graph.declarations) (hbindable : target.kind.isBindable)
    (hunwanted : target ∉ graph.wanted depth byDefault) :
    graph.contradiction? depth target = none := by
  have hnone : graph.requesters depth byDefault target = [] := by
    refine List.eq_nil_iff_forall_not_mem.2 fun asking hasking ↦ hunwanted ?_
    exact (mem_wanted hgraph).2
      ⟨hmem, hbindable, .inr ⟨asking, (mem_requesters hgraph).1 hasking⟩⟩
  rw [contradiction?, designated, ← filter_encourage_requesters, ← filterMap_site?_requesters,
    hnone]
  rfl

/-- A contradiction is told under the name of its target. -/
theorem of_contradiction?_eq_some {problem : Problem}
    (h : graph.contradiction? depth target = some problem) (name : String) :
    (problem.isAmbiguityOf name ∨ problem.isDuplicationOf name) → target.name = name := by
  unfold contradiction? at h
  split_ifs at h <;> obtain rfl := Option.some.inj h
  · rintro (h | h)
    · exact of_decide_eq_true h
    · cases h
  · rintro (h | h)
    · cases h
    · exact of_decide_eq_true h

/-- **What a report says of contradictions about a target** is what its aliases contradict each
other about. -/
theorem filter_problems_eq_contradiction? (hgraph : graph.WellFormed)
    (horderly : graph.Orderly depth) (hmem : target ∈ graph.declarations)
    (hbindable : target.kind.isBindable) (hshown : ¬ target.carries .hidden) {p : Problem → Bool}
    (hp : ∀ problem, p problem →
      problem.isAmbiguityOf target.name ∨ problem.isDuplicationOf target.name) :
    (Run.ofGraph graph depth byDefault).problems.filter p =
      (graph.contradiction? depth target).toList.filter p := by
  have hstage : ∀ problem, p problem → problem.stage = .slots := by
    intro problem hproblem
    rcases hp problem hproblem with h | h <;> cases problem <;> first | rfl | cases h
  have hslots : (Run.ofGraph graph depth byDefault).problemsAt .slots =
      (graph.wanted depth byDefault).flatMap fun other ↦
        ((graph.slot depth byDefault other).verdict graph).problem?.toList := by
    rw [Run.problemsAt, Run.graph_ofGraph, Survey.verdicts, Survey.slots_ofRun hgraph horderly,
      List.map_map, List.filterMap_map, List.filterMap_eq_flatMap_toList]
    rfl
  -- The slots of other targets have problems of other names.
  have hother : ∀ other ∈ graph.wanted depth byDefault, other ≠ target →
      ((graph.slot depth byDefault other).verdict graph).problem?.toList.filter p = [] := by
    intro other hwanted hne
    refine List.filter_eq_nil_iff.2 fun problem hproblem hkind ↦ hne ?_
    rw [Option.mem_toList] at hproblem
    by_cases hhidden : other.carries .hidden
    · obtain ⟨warnings, hverdict⟩ := verdict_slot_of_hidden graph depth byDefault hhidden
      rw [hverdict] at hproblem
      cases hproblem
    · rw [problem?_slot_eq hhidden] at hproblem
      exact hgraph.declaration_unique_of_name ((mem_wanted hgraph).1 hwanted).1 hmem
        (of_contradiction?_eq_some hproblem target.name (hp problem hkind))
  rw [Run.filter_problems_of_stage hgraph depth byDefault hstage, hslots, List.filter_flatMap]
  by_cases hwanted : target ∈ graph.wanted depth byDefault
  · rw [flatMap_eq_of_forall_ne nodup_wanted hwanted hother, problem?_slot_eq hshown]
  · rw [contradiction?_eq_none_of_not_mem_wanted hgraph hmem hbindable hwanted]
    refine List.flatMap_eq_nil_iff.2 fun other hother' ↦ hother other hother' ?_
    rintro rfl
    exact hwanted hother'

end Graph

/-- **How contradictions about a target are reported.** If two of its aliases or more are encouraged
to name it, the report says so once and names them all in traversal order. If they are not, and two
modules or more are designated to emit it in, the report says that once and names each module once,
in the order of the first alias that designates it. -/
theorem Run.contradictions_of_target {graph : Graph} (h : graph.Built) {depth : Nat}
    (horderly : graph.Orderly depth) (byDefault : Bool) {target : Declaration}
    (hmem : target ∈ graph.declarations) (hbindable : target.kind.isBindable)
    (hshown : ¬ target.carries .hidden) :
    (Run.ofGraph graph depth byDefault).problems.filter (·.isAmbiguityOf target.name) =
      (if 2 ≤ (graph.encouraged depth target).length then
        [.ambiguousEncouragement target.name ((graph.encouraged depth target).map (·.name))]
      else []) ∧
    (Run.ofGraph graph depth byDefault).problems.filter (·.isDuplicationOf target.name) =
      (if (graph.encouraged depth target).length < 2 ∧
          2 ≤ (graph.designated depth target).length then
        [.duplicateEmission target.name ((graph.designated depth target).map graph.moduleName)]
      else []) := by
  rw [Graph.filter_problems_eq_contradiction? h.wellFormed horderly hmem hbindable hshown
      fun _ ↦ .inl,
    Graph.filter_problems_eq_contradiction? h.wellFormed horderly hmem hbindable hshown
      fun _ ↦ .inr, Graph.contradiction?]
  by_cases htwo : 2 ≤ (graph.encouraged depth target).length
  · have hone : ¬ (graph.encouraged depth target).length < 2 := not_lt.2 htwo
    simp [htwo, hone, Problem.isAmbiguityOf, Problem.isDuplicationOf]
  · have hone : (graph.encouraged depth target).length < 2 := not_le.1 htwo
    by_cases hsites : 2 ≤ (graph.designated depth target).length
    · simp [htwo, hone, hsites, Problem.isAmbiguityOf, Problem.isDuplicationOf]
    · simp [htwo, hsites]

/-- A document of two contested targets: the aliases of the point contradict each other about its
name and about its place, and those of the line about its place only. -/
def Document.contested : Document where
  modules := [⟨"core", []⟩, ⟨"api", []⟩]
  declarations :=
    [⟨"Point", "struct", "core", none, none, []⟩,
     ⟨"Spot", "alias", "core", none, some "Point", [⟨"encourage", none⟩, ⟨"expose_here", none⟩]⟩,
     ⟨"Dot", "alias", "api", none, some "Point", [⟨"encourage", none⟩, ⟨"expose_here", none⟩]⟩,
     ⟨"Line", "struct", "core", none, none, []⟩,
     ⟨"Row", "alias", "api", none, some "Line", [⟨"expose_here", none⟩]⟩,
     ⟨"Edge", "alias", "core", none, some "Line", [⟨"expose_here", none⟩]⟩]

/-- The graph of the contested document. -/
def Document.contestedGraph : Graph where
  modules := [⟨⟨1⟩, "core", []⟩, ⟨⟨2⟩, "api", []⟩]
  declarations :=
    [⟨⟨1⟩, "Point", .record, ⟨1⟩, none, none, []⟩,
     ⟨⟨2⟩, "Spot", .typeAlias, ⟨1⟩, none, some "Point",
       [⟨"encourage", none⟩, ⟨"expose_here", none⟩]⟩,
     ⟨⟨3⟩, "Dot", .typeAlias, ⟨2⟩, none, some "Point",
       [⟨"encourage", none⟩, ⟨"expose_here", none⟩]⟩,
     ⟨⟨4⟩, "Line", .record, ⟨1⟩, none, none, []⟩,
     ⟨⟨5⟩, "Row", .typeAlias, ⟨2⟩, none, some "Line", [⟨"expose_here", none⟩]⟩,
     ⟨⟨6⟩, "Edge", .typeAlias, ⟨1⟩, none, some "Line", [⟨"expose_here", none⟩]⟩]

theorem Document.contestedGraph_built : contestedGraph.Built :=
  built_of_toGraph (show contested.toGraph = .ok contestedGraph from rfl)

theorem Document.contestedGraph_orderly : contestedGraph.Orderly 64 :=
  (Survey.problems_ofRun_eq_nil contestedGraph_built.wellFormed 64 false).1 (by decide +kernel)

/-- The line is reported with the two modules that its aliases designate. -/
theorem Document.contestedGraph_line :
    (Run.ofGraph contestedGraph 64 false).problems.filter (·.isDuplicationOf "Line") =
      [.duplicateEmission "Line" ["core", "api"]] := by
  have hline : (⟨⟨4⟩, "Line", .record, ⟨1⟩, none, none, []⟩ : Declaration) ∈
      contestedGraph.declarations := by simp [contestedGraph]
  obtain ⟨-, hduplicate⟩ := Run.contradictions_of_target contestedGraph_built
    contestedGraph_orderly false hline rfl (by decide)
  rw [hduplicate]
  decide +kernel

/-- **One problem of two**: the aliases of the point designate two modules, and a report that says
they contradict each other about its name says nothing of that. -/
theorem Document.contestedGraph_one_of_two :
    contestedGraph.Built ∧ contestedGraph.Orderly 64 ∧
      (contestedGraph.designated 64 ⟨⟨1⟩, "Point", .record, ⟨1⟩, none, none, []⟩).length = 2 ∧
      (Run.ofGraph contestedGraph 64 false).problems.filter (·.isAmbiguityOf "Point") =
        [.ambiguousEncouragement "Point" ["Spot", "Dot"]] ∧
      (Run.ofGraph contestedGraph 64 false).problems.filter (·.isDuplicationOf "Point") = [] :=
  ⟨contestedGraph_built, contestedGraph_orderly, by decide +kernel, by decide +kernel,
    by decide +kernel⟩

end Exposure
