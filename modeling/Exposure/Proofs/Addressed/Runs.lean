import Exposure.Plan.Report
import Exposure.Proofs.Addressed.Decisions
import Exposure.Proofs.Graph.Representation
import Exposure.Proofs.Plan.Exposed

/-!
# Runs by identities

A run from the graph to the report of its plan, with nothing but identities passed on between its
phases: chains are resolved, declarations visited, slots decided and the plan reported, and each
phase goes by identity to what it needs (`Addressed.run`).

`Run.accesses_in_range` states that **no run of a built graph makes an access out of range**: the
run has a result, and it is the plan with its report, or the problems. It also names the ranges. All
identities that are stored on the way are numbers of what the graph holds (`Run.InRange`,
`Plan.InRange`), and what the plan notes about its entries are their positions. The collections that
the graph is stored in hold no others (`Graph.Indexed.Stores`).

The one thing asked of the graph is that its identities fit the words they are kept in.
-/

namespace Exposure

namespace Addressed

/-! ### Positions of entries -/

/-- The positions of the entries of a plan, by the declarations that they are for. -/
def positions (plan : Plan) : Keyed DeclId Nat :=
  (plan.entries.zipIdx.map fun (entry, position) ↦ (entry.canonical, position)).foldl
    (fun positions noted ↦ positions.insert noted.1 noted.2) .empty

/-- The entry at the position noted for a declaration, if one is noted. -/
def entryOf? (plan : Plan) (id : DeclId) : Option (Option PlanEntry) :=
  match (positions plan).get? id with
  | none => some none
  | some position => do return some (← plan.entries[position]?)

/-- The entry that any declaration comes to. -/
def lookup (plan : Plan) (id : DeclId) : Option (Option PlanEntry) := do
  match ← entryOf? plan id with
  | some entry => return some entry
  | none =>
    match plan.aliasTargets.get? id with
    | some target => entryOf? plan target
    | none => return none

/-- The generated module with an identity. -/
def planned? (plan : Plan) (id : ModuleId) : Option ModulePlan := fetch? plan.modules id.number

/-! ### Reports -/

/-- An alias that is bound, by name. -/
def reportForwarded (graph : Graph) (bound : ForwardedAlias) : Option ForwardedReport := do
  return ⟨← graph.fetchName? bound.aliasId, ← graph.fetchModuleName? bound.module, bound.name⟩

/-- An entry, by name. -/
def reportEntry (graph : Graph) (entry : PlanEntry) : Option EntryReport := do
  return {
    declaration := entry.qualifiedName
    kind := entry.kind
    externalName := entry.externalName
    exposure := entry.exposure
    homeModule := ← graph.fetchModuleName? entry.homeModule
    emissionModule := ← graph.fetchModuleName? entry.emissionModule
    namedBy := ← entry.namedBy.mapM graph.fetchName?
    forwarded := ← entry.forwarded.mapM (reportForwarded graph) }

/-- An import, by name. -/
def reportImport (graph : Graph) (entry : Import.Entry) : Option ImportReport :=
  match entry.origin with
  | .explicit => do return ⟨← graph.fetchModuleName? entry.module, "explicit", none⟩
  | .inferred via => do
    return ⟨← graph.fetchModuleName? entry.module, "inferred", some (← graph.fetchName? via)⟩

/-- A generated module, by name. -/
def reportModule (graph : Graph) (plan : Plan) (module : ModulePlan) : Option ModuleReport := do
  return {
    name := module.name
    imports := ← module.imports.mapM (reportImport graph)
    manualBlocks := module.manualBlocks.length
    emitted := (plan.emittedIn module.id).length }

/-- A relocation, by name. -/
def reportRelocation (graph : Graph) (relocation : Import.Relocation) :
    Option RelocationReport := do
  return {
    declaration := ← graph.fetchName? relocation.declaration
    home := ← graph.fetchModuleName? relocation.home
    site := ← graph.fetchModuleName? relocation.site
    via := ← graph.fetchName? relocation.via }

/-- The report of a plan. -/
def reportPlan (graph : Graph) (plan : Plan) : Option Report := do
  return {
    entries := ← plan.entries.mapM (reportEntry graph)
    modules := ← plan.modules.mapM (reportModule graph plan)
    relocations := ← plan.relocations.mapM (reportRelocation graph)
    warnings := plan.warnings }

/-! ### The whole run -/

/-- Plans a graph and reports the plan. -/
def run (graph : Graph) (maxAliasDepth : Nat) (exposesByDefault : Bool) :
    Option (Except (List Problem) (Plan × Report)) := do
  let trails ← resolveAll graph maxAliasDepth
  let survey ← Survey.ofRun ⟨graph, .ofGraph graph, trails, exposesByDefault⟩
  match ← ofSurvey graph survey with
  | .ok plan => return .ok (plan, ← reportPlan graph plan)
  | .error problems => return .error problems

/-! ### Its accesses -/

section Entries

variable {plan : Plan} (hnodup : (plan.entries.map (·.canonical)).Nodup)
include hnodup

/-- **What is noted for a declaration is the position of its entry**, and only that. -/
theorem get?_positions_eq_some {id : DeclId} {position : Nat} :
    (positions plan).get? id = some position ↔
      ∃ entry, plan.entries[position]? = some entry ∧ entry.canonical = id := by
  rw [positions, Keyed.get?_foldl_insert, List.mem_map]
  · constructor
    · rintro ⟨⟨entry, at'⟩, hnoted, heq⟩
      cases heq
      exact ⟨entry, List.mem_zipIdx_iff_getElem?.1 hnoted, rfl⟩
    · rintro ⟨entry, hentry, rfl⟩
      exact ⟨(entry, position), List.mem_zipIdx_iff_getElem?.2 hentry, rfl⟩
  · -- No two entries are for one declaration, so none is noted at two positions.
    intro one hone other hother hid
    obtain ⟨⟨entry, i⟩, hentry, rfl⟩ := List.mem_map.1 hone
    obtain ⟨⟨entry', j⟩, hentry', rfl⟩ := List.mem_map.1 hother
    have hsame : entry.canonical = entry'.canonical := hid
    rw [List.mem_zipIdx_iff_getElem?] at hentry hentry'
    have hi : (plan.entries.map (·.canonical))[i]? = some entry.canonical := by
      rw [List.getElem?_map, hentry, Option.map_some]
    have hj : (plan.entries.map (·.canonical))[j]? = some entry.canonical := by
      rw [List.getElem?_map, hentry', Option.map_some, hsame]
    have hlt := (List.getElem?_eq_some_iff.1 hi).1
    exact (List.getElem?_inj hlt hnodup).1 (hi.trans hj.symm)

/-- **No access to an entry is out of range.** -/
theorem entryOf?_eq (id : DeclId) : entryOf? plan id = some (plan.entryOf? id) := by
  have hnoted {position : Nat} : (positions plan).get? id = some position ↔
      ∃ entry, plan.entries[position]? = some entry ∧ entry.canonical = id :=
    get?_positions_eq_some hnodup
  rw [entryOf?]
  rcases hposition : (positions plan).get? id with - | position
  · have hnone : plan.entryOf? id = none := by
      rw [Plan.entryOf?, List.find?_eq_none]
      intro entry hentry hid
      obtain ⟨position, hat⟩ := List.getElem?_of_mem hentry
      rw [hnoted.2 ⟨entry, hat, of_decide_eq_true hid⟩] at hposition
      cases hposition
    rw [hnone]
  · obtain ⟨entry, hat, hid⟩ := hnoted.1 hposition
    have hfound : plan.entryOf? id = some entry :=
      (find?_eq_some_of_nodup hnodup).2 ⟨List.mem_of_getElem? hat, hid⟩
    dsimp only
    rw [hfound, hat]
    rfl

theorem lookup_eq (id : DeclId) : lookup plan id = some (plan.lookup id) := by
  rw [lookup, entryOf?_eq hnodup, Option.bind_eq_bind, Option.bind_some, Plan.lookup]
  rcases plan.entryOf? id with - | entry
  · rcases plan.aliasTargets.get? id with - | target
    · rfl
    · exact entryOf?_eq hnodup target
  · rfl

end Entries

variable {graph : Graph} (hfits : graph.FitsWords)
include hfits

theorem reportEntry_eq {entry : PlanEntry} (hentry : entry.InRange graph) :
    reportEntry graph entry = some (Report.ofEntry graph entry) := by
  have hnamed : entry.namedBy.mapM graph.fetchName? =
      some (entry.namedBy.map graph.declarationName) := by
    rcases hid : entry.namedBy with - | id
    · rfl
    · rw [Option.mapM_some, hfits.fetchName?_eq (hentry.namedBy id hid)]
      rfl
  have hforwarded : entry.forwarded.mapM (reportForwarded graph) =
      some (entry.forwarded.map fun bound ↦
        ⟨graph.declarationName bound.aliasId, graph.moduleName bound.module, bound.name⟩) := by
    refine mapM_eq_some fun bound hbound ↦ ?_
    obtain ⟨halias, hmodule⟩ := hentry.forwarded bound hbound
    rw [reportForwarded, hfits.fetchName?_eq halias, hfits.fetchModuleName?_eq hmodule]
    rfl
  rw [reportEntry, hfits.fetchModuleName?_eq hentry.homeModule,
    hfits.fetchModuleName?_eq hentry.emissionModule, hnamed, hforwarded]
  rfl

theorem reportImport_eq {entry : Import.Entry} (hentry : entry.InRange graph) :
    reportImport graph entry = some (Report.ofImport graph entry) := by
  rw [reportImport, Report.ofImport, hfits.fetchModuleName?_eq hentry.module]
  rcases horigin : entry.origin with - | via
  · rfl
  · dsimp only
    rw [hfits.fetchName?_eq (hentry.via via horigin)]
    rfl

theorem reportRelocation_eq {relocation : Import.Relocation}
    (hrelocation : relocation.InRange graph) :
    reportRelocation graph relocation = some (Report.ofRelocation graph relocation) := by
  rw [reportRelocation, hfits.fetchName?_eq hrelocation.declaration,
    hfits.fetchModuleName?_eq hrelocation.home, hfits.fetchModuleName?_eq hrelocation.site,
    hfits.fetchName?_eq hrelocation.via]
  rfl

/-- **No access of a report is out of range**, if the plan is in range. -/
theorem reportPlan_eq {plan : Plan} (hplan : plan.InRange graph) :
    reportPlan graph plan = some (Report.ofPlan graph plan) := by
  have hentries : plan.entries.mapM (reportEntry graph) =
      some (plan.entries.map (Report.ofEntry graph)) :=
    mapM_eq_some fun entry hentry ↦ reportEntry_eq hfits (hplan.entries entry hentry)
  have hmodules : plan.modules.mapM (reportModule graph plan) =
      some (plan.modules.map (Report.ofModule graph plan)) := by
    refine mapM_eq_some fun module hmodule ↦ ?_
    have himports : module.imports.mapM (reportImport graph) =
        some (module.imports.map (Report.ofImport graph)) :=
      mapM_eq_some fun entry hentry ↦
        reportImport_eq hfits ((hplan.modules module hmodule).2 entry hentry)
    rw [reportModule, himports]
    rfl
  have hrelocations : plan.relocations.mapM (reportRelocation graph) =
      some (plan.relocations.map (Report.ofRelocation graph)) :=
    mapM_eq_some fun relocation hrelocation ↦
      reportRelocation_eq hfits (hplan.relocations relocation hrelocation)
  rw [reportPlan, hentries, hmodules, hrelocations]
  rfl

/-- **No access of a run is out of range.** Phase by phase, each hands on what the plain run has. -/
theorem run_eq (hgraph : graph.Built) (depth : Nat) (byDefault : Bool) :
    run graph depth byDefault = some ((Exposure.Run.ofGraph graph depth byDefault).plan.map
      fun plan ↦ (plan, Report.ofPlan graph plan)) := by
  have haddressable := hgraph.addressable hfits depth byDefault
  have hsurvey : Survey.ofRun ⟨graph, .ofGraph graph,
      (Alias.resolveAll graph depth).map (Except.map Alias.Chain.trail), byDefault⟩ =
        some (Exposure.Survey.ofRun (.ofGraph graph depth byDefault)).addressed :=
    haddressable.ofRun
  have hdecided : ofSurvey graph
      (Exposure.Survey.ofRun (.ofGraph graph depth byDefault)).addressed =
        some (Exposure.Run.ofGraph graph depth byDefault).plan := haddressable.ofSurvey
  simp only [run, resolveAll_eq hgraph.wellFormed hfits, hsurvey, hdecided, Option.bind_eq_bind,
    Option.bind_some]
  rcases hplan : (Exposure.Run.ofGraph graph depth byDefault).plan with problems | plan
  · rfl
  · dsimp only
    rw [reportPlan_eq hfits (haddressable.inRange_plan hplan)]
    rfl

end Addressed

/-! ### What a run stores -/

/-- **What a run stores is in range**, whatever it comes to: at every edge, on every chain, around
every declaration, in what the visits gather and in all that follows from it. -/
structure Run.InRange (run : Run) : Prop where
  edges : ∀ id target, (Addressed.edges run.graph).get? id = some (.ok target) →
    id.InRange run.graph ∧ target.InRange run.graph
  chains : ∀ id chain, run.chains.get? id = some (.ok chain) → id.InRange run.graph ∧
    chain.target.id.InRange run.graph ∧ ∀ member ∈ chain.aliases, member.id.InRange run.graph
  parents : ∀ declaration ∈ run.graph.declarations, ∀ id, declaration.parent = some id →
    id.InRange run.graph
  owners : ∀ declaration ∈ run.graph.declarations, declaration.module.InRange run.graph
  survey : (Survey.ofRun run).InRange run.graph
  verdicts : ∀ verdict ∈ (Survey.ofRun run).verdicts run.graph, verdict.InRange run.graph
  ledger : ∀ record ∈ (Survey.ofRun run).fullLedger run.graph, record.InRange run.graph
  imports : ∀ module,
    ∀ entry ∈ ((Survey.ofRun run).fullLedger run.graph).importList run.graph module,
      entry.InRange run.graph
  cycles : ∀ cycle ∈ Import.cycles (((Survey.ofRun run).fullLedger run.graph).table run.graph),
    ∀ id ∈ cycle, id.InRange run.graph

variable {graph : Graph}

/-- The run of a built graph stores nothing out of range. -/
theorem Graph.Built.inRange_run (hgraph : graph.Built) (hfits : graph.FitsWords) (depth : Nat)
    (byDefault : Bool) : (Run.ofGraph graph depth byDefault).InRange := by
  have haddressable := hgraph.addressable hfits depth byDefault
  have hwell := hgraph.wellFormed
  have hledger := haddressable.inRange_fullLedger
  refine ⟨fun id target ↦ Addressed.inRange_edges hwell, fun id chain hchain ↦ ?_,
    fun declaration hmem id hid ↦ ?_, fun declaration ↦ hwell.inRange_owner,
    haddressable.inRange_ofRun, fun verdict hverdict ↦ ?_, hledger,
    fun module ↦ Import.Ledger.inRange_importList hwell hledger, fun cycle ↦
      Addressed.inRange_of_mem_cycles (Addressed.table_subset hwell hledger)⟩
  · obtain ⟨start, hstart, -, rfl, hresolve⟩ :=
      (Alias.get?_resolveEach_eq_some hwell depth (.refl _)).1 hchain
    exact ⟨hwell.inRange hstart, hwell.inRange (Alias.target_of_resolve hstart hresolve).1,
      fun member hmember ↦ hwell.inRange (Addressed.aliases_of_resolve hstart hresolve hmember)⟩
  · obtain ⟨scope, hscope, rfl, -⟩ := hwell.parents declaration hmem id hid
    exact hwell.inRange hscope
  · obtain ⟨slot, hslot, rfl⟩ := List.mem_map.1 hverdict
    exact (haddressable.inRange_ofRun.slots slot hslot).verdict hwell

/-- A plan has a module at each number of a module of the run. -/
theorem Plan.Decided.exists_planned? {plan : Plan} {depth : Nat} {byDefault : Bool}
    (h : plan.Decided graph depth byDefault) (hgraph : graph.WellFormed) (hfits : graph.FitsWords)
    {id : ModuleId} (hid : id.InRange graph) :
    ∃ module, Addressed.planned? plan id = some module ∧ module.id = id := by
  have hsize : plan.modules.length < UInt32.size := by
    rw [h.modules, List.length_map]
    exact Nat.lt_of_lt_of_le hfits.modules (Nat.sub_le _ _)
  obtain ⟨module, hfound⟩ := Option.isSome_iff_exists.1 ((isSome_nth? _ _).2 hid)
  have hplanned := (h.module?_eq id).trans (congrArg (Option.map _) hfound)
  exact ⟨_, Addressed.fetch?_of_nth? hsize hplanned, (hgraph.module?_eq_some.1 hfound).2⟩

/-- **No access of a run is out of range.** For a built graph whose identities fit the words they
are kept in, the run by identities has a result, and it is the plan with its report, or the problems
of the run. All that is stored on the way is in range, which is where accesses find what they are
for. The graph itself is stored in collections that a builder has handed over: they answer what a
run asks of the graph, and hold nothing out of range either. A plan has its modules at their
numbers. It notes of each entry the one position of the entry, and nothing else, so that every
look-up of an entry succeeds as well. -/
theorem Run.accesses_in_range (hgraph : graph.Built) (hfits : graph.FitsWords) (depth : Nat)
    (byDefault : Bool) :
    Addressed.run graph depth byDefault = some ((Run.ofGraph graph depth byDefault).plan.map
      fun plan ↦ (plan, Report.ofPlan graph plan)) ∧
    (Run.ofGraph graph depth byDefault).InRange ∧
    (∃ calls indexed, (Graph.Builder.empty.callAll calls).build = .ok indexed ∧
      indexed.graph = graph ∧ indexed.Stores graph) ∧
    (∀ id : DeclId, id.InRange graph →
      ∃ declaration, graph.fetch? id = some declaration ∧ declaration.id = id) ∧
    (∀ id : ModuleId, id.InRange graph →
      ∃ module, graph.fetchModule? id = some module ∧ module.id = id) ∧
    ∀ plan, (Run.ofGraph graph depth byDefault).plan = .ok plan →
      plan.InRange graph ∧
      (∀ id : ModuleId, id.InRange graph →
        ∃ module, Addressed.planned? plan id = some module ∧ module.id = id) ∧
      (∀ id position, (Addressed.positions plan).get? id = some position ↔
        ∃ entry, plan.entries[position]? = some entry ∧ entry.canonical = id) ∧
      ∀ id, Addressed.lookup plan id = some (plan.lookup id) := by
  have hwell := hgraph.wellFormed
  refine ⟨Addressed.run_eq hfits hgraph depth byDefault, hgraph.inRange_run hfits depth byDefault,
    hgraph.exists_stored, fun id hid ↦ ?_, fun id hid ↦ ?_, fun plan hplan ↦ ?_⟩
  · obtain ⟨declaration, hfound⟩ := Option.isSome_iff_exists.1 ((isSome_nth? _ _).2 hid)
    exact ⟨declaration, hfits.fetch?_of_declaration? hfound,
      (hwell.declaration?_eq_some.1 hfound).2⟩
  · obtain ⟨module, hfound⟩ := Option.isSome_iff_exists.1 ((isSome_nth? _ _).2 hid)
    exact ⟨module, hfits.fetchModule?_of_module? hfound, (hwell.module?_eq_some.1 hfound).2⟩
  · have hdecided := Run.decided_of_plan hwell hplan
    have hnodup := hdecided.nodup_canonical hwell
    exact ⟨(hgraph.addressable hfits depth byDefault).inRange_plan hplan,
      fun id ↦ hdecided.exists_planned? hwell hfits,
      fun id position ↦ Addressed.get?_positions_eq_some hnodup, Addressed.lookup_eq hnodup⟩

/-- In the sample the one entry is at the first position, and everything is found. -/
theorem Document.sampleGraph_in_range :
    ∃ plan, Addressed.run sampleGraph 64 false =
        some (.ok (plan, Report.ofPlan sampleGraph plan)) ∧
      (Addressed.positions plan).get? ⟨2⟩ = some 0 ∧
      Addressed.lookup plan ⟨5⟩ = some (plan.lookup ⟨5⟩) ∧ plan.lookup ⟨5⟩ ≠ none := by
  obtain ⟨plan, hplan⟩ : ∃ plan, (Run.ofGraph sampleGraph 64 false).plan = .ok plan := ⟨_, rfl⟩
  obtain ⟨hrun, -, -, -, -, hplanned⟩ :=
    Run.accesses_in_range sampleGraph_built ⟨by decide, by decide⟩ 64 false
  obtain ⟨-, -, hpositions, hlookup⟩ := hplanned plan hplan
  rw [hplan] at hrun
  refine ⟨plan, hrun, (hpositions _ _).2 ?_, hlookup _, ?_⟩
  · cases hplan
    exact ⟨_, rfl, rfl⟩
  · cases hplan
    decide

end Exposure
