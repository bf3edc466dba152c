import Exposure.Proofs.Plan.Contradictions
import Exposure.Proofs.Plan.ImportCycles

/-!
# The warnings of a plan

The warnings of a plan are three lists, one behind the other (`Plan.warnings_exactly`):

* for each hidden target that aliases request, in the order of the first request
  (`Graph.refused`), a warning for every alias of it that asks for exposure by its own marks
  (`Graph.refusals`). An alias that is visible by its surroundings only is not warned of, though it
  may be what puts its target in its place;
* a warning for each module that asks for itself;
* a warning for each group of modules that import each other.

The three come from three places: from the slots of hidden targets, from the requests in the ledger
and from the import lists. That no warning is given twice has a reason of its own in each: aliases,
modules and groups are told apart by the names in their warnings.
-/

namespace Exposure

namespace Graph

/-- The hidden targets that aliases request, in the order of the first request. Aliases that are
visible by their surroundings count. -/
def refused (graph : Graph) (depth : Nat) (byDefault : Bool) : List Declaration :=
  (graph.traversal.filterMap fun asking ↦
    (graph.target? depth asking).filter fun target ↦
      target.kind.isBindable && target.carries .hidden &&
        graph.requests depth byDefault asking target).eraseDups

/-- The warnings about the aliases of a hidden target: one for each that asks for exposure by its
own marks, in traversal order. -/
def refusals (graph : Graph) (depth : Nat) (target : Declaration) : List Warning :=
  ((graph.openAliases depth target).filter (·.asksExposure)).map fun asking ↦
    .aliasToHidden asking.name target.name

variable {graph : Graph} {depth : Nat} {byDefault : Bool} {target : Declaration}

/-! ### Hidden targets -/

theorem mem_openAliases (hgraph : graph.WellFormed) {asking : Declaration} :
    asking ∈ graph.openAliases depth target ↔ graph.OpenAlias depth target asking := by
  simp only [openAliases, List.mem_filter, hgraph.mem_traversal, Bool.and_eq_true,
    decide_eq_true_iff, Bool.not_eq_true', ← Bool.not_eq_true]
  constructor
  · rintro ⟨hmem, ⟨halias, hleads⟩, hshown⟩
    exact ⟨hmem, halias, hleads, hshown⟩
  · rintro ⟨hmem, halias, hleads, hshown⟩
    exact ⟨hmem, ⟨halias, hleads⟩, hshown⟩

/-- Who is refused: the hidden bindable declarations that are requested. -/
theorem mem_refused (hgraph : graph.WellFormed) :
    target ∈ graph.refused depth byDefault ↔
      target.kind.isBindable ∧ target.carries .hidden ∧
        ∃ asking ∈ graph.declarations, graph.requests depth byDefault asking target := by
  rw [refused, List.mem_eraseDups, List.mem_filterMap]
  constructor
  · rintro ⟨asking, hmem, htarget⟩
    rw [Option.filter_eq_some_iff, Bool.and_eq_true, Bool.and_eq_true] at htarget
    obtain ⟨-, ⟨hbindable, hhidden⟩, hrequests⟩ := htarget
    exact ⟨hbindable, hhidden, asking, hgraph.mem_traversal.1 hmem, hrequests⟩
  · rintro ⟨hbindable, hhidden, asking, hmem, hrequests⟩
    refine ⟨asking, hgraph.mem_traversal.2 hmem, Option.filter_eq_some_iff.2
      ⟨(requests_iff.1 hrequests).2.1, ?_⟩⟩
    rw [hbindable, hhidden, hrequests]
    rfl

/-- A warning about an alias of a hidden target names both. -/
theorem mem_refusals (hgraph : graph.WellFormed) {warning : Warning} :
    warning ∈ graph.refusals depth target ↔
      ∃ asking, graph.OpenAlias depth target asking ∧ asking.asksExposure ∧
        warning = .aliasToHidden asking.name target.name := by
  simp only [refusals, List.mem_map, List.mem_filter, mem_openAliases hgraph, and_assoc,
    eq_comm (a := warning)]

/-- On an orderly graph what is hidden is not visible. -/
theorem Orderly.isVisible_eq_false (horderly : graph.Orderly depth)
    (hmem : target ∈ graph.declarations) (hhidden : target.carries .hidden) :
    graph.isVisible byDefault target = false := by
  have hunmarked : target.carries .visible = false := by
    rw [Bool.eq_false_iff]
    exact fun hvisible ↦
      (horderly.declarations target hmem).agrees (Marks.conflict_iff.2 ⟨hhidden, .inl hvisible⟩)
  rw [isVisible, isImplicit, hunmarked, hhidden, Bool.not_true, Bool.and_false, Bool.false_and]
  rfl

/-- **What is refused** is what is wanted but hidden. As a hidden target is not visible, requests
alone decide where it comes in the order. -/
theorem refused_eq (hgraph : graph.WellFormed) (horderly : graph.Orderly depth) :
    graph.refused depth byDefault =
      (graph.wanted depth byDefault).filter (·.carries .hidden) := by
  have hwanted : graph.wanted depth byDefault =
      (graph.traversal.filterMap fun declaration ↦
        (graph.note? depth byDefault declaration).map (·.target)).eraseDups := by
    rw [wanted, notes, List.map_filterMap]
  rw [hwanted, filter_eraseDups, List.filter_filterMap, refused]
  congr 1
  refine List.filterMap_congr fun declaration hmem ↦ ?_
  ext target
  have hdeclared := hgraph.mem_traversal.1 hmem
  simp only [Option.filter_eq_some_iff, Bool.and_eq_true]
  constructor
  · rintro ⟨-, ⟨hbindable, hhidden⟩, hrequests⟩
    rw [target_note?_eq_some hbindable, prompts, hrequests, Bool.or_true]
    exact ⟨rfl, hhidden⟩
  · rintro ⟨hnote, hhidden⟩
    obtain ⟨note, hsome, rfl⟩ := Option.map_eq_some_iff.1 hnote
    obtain ⟨hmem, hbindable⟩ := target_of_mem_notes hgraph
      (List.mem_filterMap.2 ⟨declaration, hgraph.mem_traversal.2 hdeclared, hsome⟩)
    rw [target_note?_eq_some hbindable, prompts, horderly.isVisible_eq_false hmem hhidden,
      Bool.and_false, Bool.false_or] at hnote
    exact ⟨(requests_iff.1 hnote).2.1, ⟨hbindable, hhidden⟩, hnote⟩

/-- **The warnings of the slot of a hidden target** are about the aliases that ask for it. -/
theorem warnings_verdict_slot (hgraph : graph.WellFormed) (horderly : graph.Orderly depth)
    (hbindable : target.kind.isBindable) (hhidden : target.carries .hidden) :
    ((graph.slot depth byDefault target).verdict graph).warnings =
      graph.refusals depth target := by
  -- A requester's request is explicit exactly if the requester asks for exposure.
  have hexplicit : (graph.slot depth byDefault target).requests.filter (·.isExplicit) =
      ((graph.openAliases depth target).filter (·.asksExposure)).map (graph.request byDefault) := by
    rw [slot, List.filter_map]
    congr 1
    have hrequesters : (graph.requesters depth byDefault target).filter
        ((·.isExplicit) ∘ graph.request byDefault) =
          (graph.requesters depth byDefault target).filter (·.asksExposure) :=
      List.filter_congr fun asking hasking ↦
        isExplicit_request (horderly.site_known hgraph hbindable hasking)
    rw [hrequesters, requesters, openAliases, List.filter_filter, List.filter_filter]
    refine List.filter_congr fun asking _ ↦ ?_
    by_cases hasks : asking.asksExposure
    · rw [requests_eq_of_asksExposure hasks]
    · rw [Bool.not_eq_true] at hasks
      rw [hasks, Bool.false_and, Bool.false_and]
  have hslot : (graph.slot depth byDefault target).hidden = true := hhidden
  rw [Slot.verdict, if_pos hslot, Verdict.warnings, hexplicit, List.map_map, refusals]
  rfl

/-- The warnings of all slots are those about refused targets. -/
theorem warnings_verdicts (hgraph : graph.WellFormed) (horderly : graph.Orderly depth)
    (hemittable : ∀ target ∈ graph.exposed depth byDefault,
      graph.Emittable depth byDefault target) :
    ((Survey.ofRun (Run.ofGraph graph depth byDefault)).verdicts graph).flatMap (·.warnings) =
      (graph.refused depth byDefault).flatMap (graph.refusals depth) := by
  rw [Survey.verdicts, Survey.slots_ofRun hgraph horderly, List.map_map, List.flatMap_map,
    refused_eq hgraph horderly, flatMap_filter]
  refine List.flatMap_congr fun target hwanted ↦ ?_
  rcases verdict_slot_of_mem_wanted hgraph horderly hemittable hwanted with
    ⟨hhidden, -⟩ | ⟨hshown, hverdict⟩
  · rw [if_pos hhidden]
    exact warnings_verdict_slot hgraph horderly ((mem_wanted hgraph).1 hwanted).2.1 hhidden
  · rw [if_neg (by simp [hshown]), Function.comp, hverdict]
    rfl

/-- No alias is warned of twice. -/
theorem nodup_refusals (hgraph : graph.WellFormed) :
    ((graph.refused depth byDefault).flatMap (graph.refusals depth)).Nodup := by
  rw [List.nodup_flatMap]
  refine ⟨fun target _ ↦ ?_, (nodup_eraseDups _).imp_of_mem fun {a b} ha hb hne ↦ ?_⟩
  · refine ((hgraph.traversal_nodup.filter _).filter _).map_on fun a ha b hb hname ↦ ?_
    have hdeclared {asking : Declaration}
        (h : asking ∈ (graph.openAliases depth target).filter (·.asksExposure)) :
        asking ∈ graph.declarations := ((mem_openAliases hgraph).1 (List.mem_filter.1 h).1).mem
    rw [Warning.aliasToHidden.injEq] at hname
    exact hgraph.declaration_unique_of_name (hdeclared ha) (hdeclared hb) hname.1
  · have hdeclared {target : Declaration} (h : target ∈ graph.refused depth byDefault) :
        target ∈ graph.declarations := by
      obtain ⟨-, -, asking, hmem, hrequests⟩ := (mem_refused hgraph).1 h
      exact target?_mem hmem (requests_iff.1 hrequests).2.1
    intro warning hfirst hsecond
    obtain ⟨asking, -, -, rfl⟩ := (mem_refusals hgraph).1 hfirst
    obtain ⟨other, -, -, hsame⟩ := (mem_refusals hgraph).1 hsecond
    rw [Warning.aliasToHidden.injEq] at hsame
    exact hne (hgraph.declaration_unique_of_name (hdeclared ha) (hdeclared hb) hsame.2)

/-! ### Modules that ask for themselves -/

/-- **The modules that are warned of** are those that ask for themselves. -/
theorem flatMap_selfImports (hgraph : graph.WellFormed) (hread : graph.MarksRead) :
    graph.modules.flatMap
        (Import.Ledger.selfImports graph (graph.ledger depth byDefault)) =
      (graph.modules.filter fun module ↦ graph.AsksFor module module.name).map
        (.selfImport ·.name) := by
  rw [List.map_eq_flatMap, flatMap_filter]
  refine List.flatMap_congr fun module hmodule ↦ ?_
  rw [Import.Ledger.selfImports_eq hgraph hmodule]
  exact if_congr ((request_mem_ledger hgraph hread hmodule).trans decide_eq_true_iff.symm) rfl rfl

end Graph

/-! ### The three lists -/

namespace Plan.Decided

variable {graph : Graph} {depth : Nat} {byDefault : Bool} {plan : Plan}
  (h : plan.Decided graph depth byDefault) (hgraph : graph.WellFormed)
include h hgraph

/-- **The warnings of a plan, told from the graph.** -/
theorem warnings_eq (hplan : (Run.ofGraph graph depth byDefault).plan = .ok plan) :
    plan.warnings =
      (graph.refused depth byDefault).flatMap (graph.refusals depth) ++
        ((graph.modules.filter fun module ↦ graph.AsksFor module module.name).map
            (.selfImport ·.name) ++
          (Import.cycles (Import.Ledger.table graph (graph.ledger depth byDefault))).map
            fun members ↦ .importCycle (members.map graph.moduleName)) := by
  rw [(Plan.comesTo_of_ofSurvey hplan).warnings, Run.graph_ofGraph,
    Graph.fullLedger_ofRun hgraph h.orderly h.emittable,
    Graph.warnings_verdicts hgraph h.orderly h.emittable, Import.Ledger.settle,
    Graph.flatMap_selfImports hgraph h.orderly.marksRead, List.map_map]
  rfl

/-- The cycles in the table of a plan are groups of its modules. -/
theorem mem_cycles_table {members : List ModuleId} :
    members ∈ Import.cycles (Import.Ledger.table graph (graph.ledger depth byDefault)) ↔
      2 ≤ members.length ∧ members.Pairwise (fun a b ↦ a.number < b.number) ∧
        ∀ a ∈ members, ∀ b, b ∈ members ↔
          Relation.ReflTransGen plan.Lists a b ∧ Relation.ReflTransGen plan.Lists b a := by
  have hlists : Import.Lists (Import.Ledger.table graph (graph.ledger depth byDefault)) =
      plan.Lists := by
    funext a b
    exact propext (h.lists_iff hgraph).symm
  rw [Import.mem_cycles (h.closed_table hgraph), hlists]

/-- No group is warned of twice: the names of modules tell groups apart. -/
theorem nodup_importCycles :
    ((Import.cycles (Import.Ledger.table graph (graph.ledger depth byDefault))).map
      fun members ↦ Warning.importCycle (members.map graph.moduleName)).Nodup := by
  have hclosed := h.closed_table hgraph
  have hback {members : List ModuleId} (hmembers : members ∈ Import.cycles
      (Import.Ledger.table graph (graph.ledger depth byDefault))) :
      (members.map graph.moduleName).filterMap
        (fun name ↦ (graph.moduleNamed name).map (·.id)) = members := by
    obtain ⟨-, hnodes, -⟩ := Import.of_mem_cycles hclosed hmembers
    have hfound : ∀ a ∈ members,
        (graph.moduleNamed (graph.moduleName a)).map (·.id) = some a := by
      intro a ha
      obtain ⟨module, hmodule, rfl⟩ :=
        (Import.Ledger.mem_nodes_table hgraph).1 (hnodes a ha)
      rw [hgraph.moduleName_eq hmodule, hgraph.moduleNamed_eq_some.2 ⟨hmodule, rfl⟩,
        Option.map_some]
    rw [List.filterMap_map]
    exact (List.filterMap_congr hfound).trans List.filterMap_some
  refine (Import.nodup_cycles hclosed).map_on fun a ha b hb hsame ↦ ?_
  rw [Warning.importCycle.injEq] at hsame
  rw [← hback ha, ← hback hb, hsame]

/-- **No warning is given twice.** -/
theorem nodup_warnings (hplan : (Run.ofGraph graph depth byDefault).plan = .ok plan) :
    plan.warnings.Nodup := by
  have hself : ((graph.modules.filter fun module ↦ graph.AsksFor module module.name).map
      (Warning.selfImport ·.name)).Nodup := by
    have hnames : ((graph.modules.filter fun module ↦
        graph.AsksFor module module.name).map (·.name)).Nodup :=
      (List.filter_sublist.map _).nodup hgraph.module_names
    have hmap := hnames.map (f := Warning.selfImport) fun a b hab ↦
      Warning.selfImport.inj hab
    rwa [List.map_map] at hmap
  rw [h.warnings_eq hgraph hplan, List.nodup_append', List.nodup_append']
  refine ⟨Graph.nodup_refusals hgraph, ⟨hself, h.nodup_importCycles hgraph, ?_⟩, ?_⟩
  · intro warning hfirst hsecond
    obtain ⟨module, -, rfl⟩ := List.mem_map.1 hfirst
    obtain ⟨members, -, hsame⟩ := List.mem_map.1 hsecond
    cases hsame
  · intro warning hfirst hsecond
    obtain ⟨target, -, hrefusal⟩ := List.mem_flatMap.1 hfirst
    obtain ⟨asking, -, -, rfl⟩ := (Graph.mem_refusals hgraph).1 hrefusal
    rcases List.mem_append.1 hsecond with hself | hcycle
    · obtain ⟨module, -, hsame⟩ := List.mem_map.1 hself
      cases hsame
    · obtain ⟨members, -, hsame⟩ := List.mem_map.1 hcycle
      cases hsame

/-- Which aliases are warned of can be told without regard to the order. -/
theorem aliasToHidden_mem_warnings (hplan : (Run.ofGraph graph depth byDefault).plan = .ok plan)
    {aliasName targetName : String} :
    .aliasToHidden aliasName targetName ∈ plan.warnings ↔
      ∃ asking target, graph.OpenAlias depth target asking ∧ target.kind.isBindable ∧
        target.carries .hidden ∧ asking.asksExposure ∧ asking.name = aliasName ∧
          target.name = targetName := by
  rw [h.warnings_eq hgraph hplan, List.mem_append, List.mem_flatMap]
  constructor
  · rintro (⟨target, htarget, hrefusal⟩ | hother)
    · obtain ⟨hbindable, hhidden, -⟩ := (Graph.mem_refused hgraph).1 htarget
      obtain ⟨asking, hopen, hasks, hsame⟩ := (Graph.mem_refusals hgraph).1 hrefusal
      rw [Warning.aliasToHidden.injEq] at hsame
      exact ⟨asking, target, hopen, hbindable, hhidden, hasks, hsame.1.symm, hsame.2.symm⟩
    · rcases List.mem_append.1 hother with hself | hcycle
      · obtain ⟨module, -, hsame⟩ := List.mem_map.1 hself
        cases hsame
      · obtain ⟨members, -, hsame⟩ := List.mem_map.1 hcycle
        cases hsame
  · rintro ⟨asking, target, hopen, hbindable, hhidden, hasks, rfl, rfl⟩
    have hrequests := ((Graph.mem_requesters hgraph).1
      (hopen.mem_requesters hgraph byDefault hasks)).2
    exact .inl ⟨target, (Graph.mem_refused hgraph).2
      ⟨hbindable, hhidden, asking, hopen.mem, hrequests⟩,
      (Graph.mem_refusals hgraph).2 ⟨asking, hopen, hasks, rfl⟩⟩

end Plan.Decided

/-- **The warnings of a plan are exactly these**, in this order and each once: the refusals of
hidden targets, the modules that ask for themselves, and the groups of modules that import each
other. An alias is refused exactly if it is not hidden, is marked visible, encouraged or to be
exposed where it stands, and leads to a bindable declaration that is hidden itself; a group is what
the imports of the plan join both ways, explicit and inferred. -/
theorem Plan.warnings_exactly {graph : Graph} (h : graph.Built) {depth : Nat} {byDefault : Bool}
    {plan : Plan} (hplan : (Run.ofGraph graph depth byDefault).plan = .ok plan) :
    ∃ rings : List (List ModuleId),
      plan.warnings =
        (graph.refused depth byDefault).flatMap (graph.refusals depth) ++
          ((graph.modules.filter fun module ↦ graph.AsksFor module module.name).map
              (.selfImport ·.name) ++
            rings.map fun members ↦ .importCycle (members.map graph.moduleName)) ∧
      (∀ aliasName targetName, .aliasToHidden aliasName targetName ∈ plan.warnings ↔
        ∃ asking ∈ graph.declarations, ∃ target, asking.isAlias ∧ ¬ asking.carries .hidden ∧
          (asking.carries .visible ∨ asking.carries .encourage ∨ asking.carries .exposeHere) ∧
            graph.target? depth asking = some target ∧ target.kind.isBindable ∧
              target.carries .hidden ∧ asking.name = aliasName ∧ target.name = targetName) ∧
      (∀ members, members ∈ rings ↔
        2 ≤ members.length ∧ members.Pairwise (fun a b ↦ a.number < b.number) ∧
          ∀ a ∈ members, ∀ b, b ∈ members ↔
            Relation.ReflTransGen plan.Lists a b ∧ Relation.ReflTransGen plan.Lists b a) ∧
      (rings.Pairwise fun first second ↦
        ∀ a ∈ first.head?, ∀ b ∈ second.head?, a.number < b.number) ∧
      plan.warnings.Nodup := by
  have hgraph := h.wellFormed
  have hdecided := Run.decided_of_plan hgraph hplan
  refine ⟨_, hdecided.warnings_eq hgraph hplan, fun aliasName targetName ↦ ?_,
    fun members ↦ hdecided.mem_cycles_table hgraph,
    Import.pairwise_cycles (hdecided.closed_table hgraph), hdecided.nodup_warnings hgraph hplan⟩
  -- What is asked of the alias by its marks is spelled out.
  rw [hdecided.aliasToHidden_mem_warnings hgraph hplan]
  constructor
  · rintro ⟨asking, target, hopen, hbindable, hhidden, hasks, hnames⟩
    exact ⟨asking, hopen.mem, target, hopen.isAlias, hopen.shown, Marks.askExposure_iff.1 hasks,
      hopen.leads, hbindable, hhidden, hnames⟩
  · rintro ⟨asking, hmem, target, halias, hshown, hasks, hleads, hbindable, hhidden, hnames⟩
    exact ⟨asking, target, ⟨hmem, halias, hleads, hshown⟩, hbindable, hhidden,
      Marks.askExposure_iff.2 hasks, hnames⟩

/-- A document with a hidden key that two aliases lead to, one marked visible and one visible by its
module, and with two modules that import each other, one of them itself. -/
def Document.wary : Document where
  modules :=
    [⟨"core", []⟩, ⟨"api", [⟨"import", some "tools"⟩]⟩,
     ⟨"tools", [⟨"visible", none⟩, ⟨"import", some "tools"⟩, ⟨"import", some "api"⟩]⟩]
  declarations :=
    [⟨"core::key", "function", "core", none, none, [⟨"hidden", none⟩]⟩,
     ⟨"tools::glance", "alias", "tools", none, some "core::key", []⟩,
     ⟨"api::peek", "alias", "api", none, some "core::key", [⟨"visible", none⟩]⟩]

/-- The graph of the wary document. -/
def Document.waryGraph : Graph where
  modules :=
    [⟨⟨1⟩, "core", []⟩, ⟨⟨2⟩, "api", [⟨"import", some "tools"⟩]⟩,
     ⟨⟨3⟩, "tools", [⟨"visible", none⟩, ⟨"import", some "tools"⟩, ⟨"import", some "api"⟩]⟩]
  declarations :=
    [⟨⟨1⟩, "core::key", .function, ⟨1⟩, none, none, [⟨"hidden", none⟩]⟩,
     ⟨⟨2⟩, "tools::glance", .typeAlias, ⟨3⟩, none, some "core::key", []⟩,
     ⟨⟨3⟩, "api::peek", .typeAlias, ⟨2⟩, none, some "core::key", [⟨"visible", none⟩]⟩]

theorem Document.waryGraph_built : waryGraph.Built :=
  built_of_toGraph (show wary.toGraph = .ok waryGraph from rfl)

/-- Of the wary document there are three warnings, one of each sort, and none about the alias that
is visible by its module. -/
theorem Document.waryGraph_warnings :
    ∃ plan, (Run.ofGraph waryGraph 64 false).plan = .ok plan ∧
      plan.warnings = [.aliasToHidden "api::peek" "core::key", .selfImport "tools",
        .importCycle ["api", "tools"]] ∧
      plan.warnings.Nodup := by
  obtain ⟨plan, hplan, hwarnings⟩ : ∃ plan, (Run.ofGraph waryGraph 64 false).plan = .ok plan ∧
      plan.warnings = [.aliasToHidden "api::peek" "core::key", .selfImport "tools",
        .importCycle ["api", "tools"]] := ⟨_, rfl, by cbv⟩
  obtain ⟨-, -, -, -, -, hnodup⟩ := Plan.warnings_exactly waryGraph_built hplan
  exact ⟨plan, hplan, hwarnings, hnodup⟩

end Exposure
