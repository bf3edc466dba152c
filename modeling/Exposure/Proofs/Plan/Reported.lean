import Mathlib
import Exposure.Plan.Report
import Exposure.Proofs.Plan.Imports
import Exposure.Proofs.Plan.Placement

/-!
# Reports

A report shows a plan by name. It shows all of it, in order: an entry for every entry, a module for
every module, a relocation for every relocation, each with the names that the graph has for the
identities in it (`Graph.ShowsEntry`, `Graph.ShowsModule`, `Graph.ShowsRelocation`). That the graph
has such names at all is because a plan holds no identity from outside the graph.

Names tell declarations apart, and modules, so what is said of identities can be read off a report:
how many entries each module emits, which entry a relocation belongs to, and which entries stay at
home (`Report.shows_plan`).
-/

namespace Exposure

/-- Where a key leads each member to one of several places, the places hold all members. -/
theorem sum_length_filter {α κ : Type} [DecidableEq κ] {key : α → κ} {places : List κ}
    (hnodup : places.Nodup) {xs : List α} (hplaces : ∀ x ∈ xs, key x ∈ places) :
    (places.map fun place ↦ (xs.filter fun x ↦ key x = place).length).sum = xs.length := by
  induction xs with
  | nil => simp
  | cons x xs ih =>
    obtain ⟨hx, hxs⟩ := List.forall_mem_cons.1 hplaces
    have hlength (place : κ) : ((x :: xs).filter fun y ↦ key y = place).length =
        (if place = key x then 1 else 0) + (xs.filter fun y ↦ key y = place).length := by
      rw [List.filter_cons]
      by_cases hplace : place = key x
      · rw [if_pos (decide_eq_true hplace.symm), if_pos hplace, List.length_cons, Nat.add_comm]
      · rw [if_neg (by simpa [eq_comm] using hplace), if_neg hplace, Nat.zero_add]
    -- Only the place of the new member counts one more.
    have hone : (places.map fun place ↦ if place = key x then 1 else 0).sum = 1 := by
      rw [List.sum_map_eq_nsmul_single (key x) _ fun place hne _ ↦ if_neg hne, if_pos rfl,
        List.count_eq_one_of_mem hnodup hx]
      rfl
    simp only [hlength]
    rw [List.sum_map_add, hone, ih hxs, List.length_cons, Nat.add_comm]

/-- A relocation says of an entry where it comes from and where it goes. -/
structure EntryReport.MovedBy (shown : EntryReport) (relocation : RelocationReport) : Prop where
  declaration : relocation.declaration = shown.declaration
  home : relocation.home = shown.homeModule
  site : relocation.site = shown.emissionModule

namespace Graph

/-- The graph has a declaration with an identity, and this is its name. -/
def CallsDeclaration (graph : Graph) (id : DeclId) (name : String) : Prop :=
  ∃ declaration ∈ graph.declarations, declaration.id = id ∧ declaration.name = name

/-- The graph has a module with an identity, and this is its name. -/
def CallsModule (graph : Graph) (id : ModuleId) (name : String) : Prop :=
  ∃ module ∈ graph.modules, module.id = id ∧ module.name = name

/-- A bound alias is shown by name. -/
structure ShowsForwarded (graph : Graph) (bound : ForwardedAlias) (shown : ForwardedReport) :
    Prop where
  aliasName : graph.CallsDeclaration bound.aliasId shown.aliasName
  module : graph.CallsModule bound.module shown.module
  name : shown.name = bound.name

/-- An entry is shown by name. -/
structure ShowsEntry (graph : Graph) (entry : PlanEntry) (shown : EntryReport) : Prop where
  declaration : graph.CallsDeclaration entry.canonical shown.declaration
  kind : shown.kind = entry.kind
  externalName : shown.externalName = entry.externalName
  exposure : shown.exposure = entry.exposure
  homeModule : graph.CallsModule entry.homeModule shown.homeModule
  emissionModule : graph.CallsModule entry.emissionModule shown.emissionModule
  namedBy : Option.Rel graph.CallsDeclaration entry.namedBy shown.namedBy
  forwarded : List.Forall₂ graph.ShowsForwarded entry.forwarded shown.forwarded

/-- An import of a module is shown by name. Where it is inferred, and only there, it is shown
through which alias, and this is one that the importing module declares. -/
structure ShowsImport (graph : Graph) (importer : ModuleId) (listed : Import.Entry)
    (shown : ImportReport) : Prop where
  module : graph.CallsModule listed.module shown.module
  via : match listed.origin with
    | .explicit => shown.via = none ∧ shown.origin = "explicit"
    | .inferred id => shown.origin = "inferred" ∧
        ∃ binder ∈ graph.declarations, binder.isAlias ∧ binder.module = importer ∧
          binder.id = id ∧ shown.via = some binder.name

/-- A generated module is shown by name. -/
structure ShowsModule (graph : Graph) (module : ModulePlan) (shown : ModuleReport) : Prop where
  name : graph.CallsModule module.id shown.name
  imports : List.Forall₂ (graph.ShowsImport module.id) module.imports shown.imports
  manualBlocks : shown.manualBlocks = module.manualBlocks.length

/-- A relocation is shown by name. -/
structure ShowsRelocation (graph : Graph) (relocation : Import.Relocation)
    (shown : RelocationReport) : Prop where
  declaration : graph.CallsDeclaration relocation.declaration shown.declaration
  home : graph.CallsModule relocation.home shown.home
  site : graph.CallsModule relocation.site shown.site
  via : graph.CallsDeclaration relocation.via shown.via

variable {graph : Graph} {depth : Nat} {byDefault : Bool} {target : Declaration}

/-! ### Names -/

section Names

variable (hgraph : graph.WellFormed)
include hgraph

/-- A declaration is called what a report calls it. -/
theorem callsDeclaration_declarationName {declaration : Declaration}
    (hmem : declaration ∈ graph.declarations) :
    graph.CallsDeclaration declaration.id (graph.declarationName declaration.id) :=
  ⟨declaration, hmem, rfl, (hgraph.declarationName_eq hmem).symm⟩

/-- A module is called what a report calls it. -/
theorem callsModule_moduleName {id : ModuleId} (h : ∃ module ∈ graph.modules, module.id = id) :
    graph.CallsModule id (graph.moduleName id) := by
  obtain ⟨module, hmodule, rfl⟩ := h
  exact ⟨module, hmodule, rfl, (hgraph.moduleName_eq hmodule).symm⟩

/-- Modules of the run are told apart by name. -/
theorem moduleName_inj {a b : ModuleId} (ha : ∃ module ∈ graph.modules, module.id = a)
    (hb : ∃ module ∈ graph.modules, module.id = b) :
    graph.moduleName a = graph.moduleName b ↔ a = b := by
  obtain ⟨first, hfirst, rfl⟩ := ha
  obtain ⟨second, hsecond, rfl⟩ := hb
  rw [hgraph.moduleName_eq hfirst, hgraph.moduleName_eq hsecond]
  constructor
  · exact fun hname ↦ congrArg (·.id)
      (List.inj_on_of_nodup_map hgraph.module_names hfirst hsecond hname)
  · exact fun hid ↦ congrArg (·.name) (hgraph.module_unique hfirst hsecond hid)

end Names

/-! ### What is shown -/

variable (hgraph : graph.WellFormed)
include hgraph

/-- The entry of a target is shown by name. -/
theorem showsEntry_ofEntry (hmem : target ∈ graph.declarations) :
    graph.ShowsEntry (graph.entry depth byDefault target)
      (Report.ofEntry graph (graph.entry depth byDefault target)) where
  declaration := ⟨target, hmem, rfl, rfl⟩
  kind := rfl
  externalName := rfl
  exposure := rfl
  homeModule := callsModule_moduleName hgraph (hgraph.owned target hmem)
  emissionModule := callsModule_moduleName hgraph (exists_module_emissionModule hgraph hmem)
  namedBy := by
    show Option.Rel _ ((graph.namer? depth byDefault target).map (·.id))
      (((graph.namer? depth byDefault target).map (·.id)).map graph.declarationName)
    rcases hnamer : graph.namer? depth byDefault target with - | namer
    · exact .none
    · have hdeclared := ((mem_requesters hgraph).1 (mem_requesters_of_namer? hnamer)).1
      exact .some (callsDeclaration_declarationName hgraph hdeclared)
  forwarded := by
    refine List.forall₂_map_right_iff.2 (List.forall₂_same.2 fun bound hbound ↦ ?_)
    obtain ⟨asking, hasking, rfl⟩ := List.mem_map.1 hbound
    obtain ⟨hdeclared, -⟩ := (mem_requesters hgraph).1 (List.mem_filter.1 hasking).1
    exact ⟨callsDeclaration_declarationName hgraph hdeclared,
      callsModule_moduleName hgraph (hgraph.owned asking hdeclared), rfl⟩

/-- The relocation of a target is shown by name. -/
theorem showsRelocation_ofRelocation (hmem : target ∈ graph.declarations)
    {relocation : Import.Relocation}
    (hrelocation : graph.relocation? depth byDefault target = some relocation) :
    graph.ShowsRelocation relocation (Report.ofRelocation graph relocation) := by
  obtain ⟨-, via, hvia, rfl⟩ := relocation?_eq_some.1 hrelocation
  obtain ⟨hdeclared, -⟩ := (mem_requesters hgraph).1 (List.mem_of_find?_eq_some hvia)
  exact ⟨callsDeclaration_declarationName hgraph hmem,
    callsModule_moduleName hgraph (hgraph.owned target hmem),
    callsModule_moduleName hgraph (exists_module_emissionModule hgraph hmem),
    callsDeclaration_declarationName hgraph hdeclared⟩

/-- What a module of the run imports is shown by name. -/
theorem showsImport_ofImport {plan : Plan} (hdecided : plan.Decided graph depth byDefault)
    {module : Module} (hmodule : module ∈ graph.modules) {listed : Import.Entry}
    (hlisted : listed ∈ plan.importsOf module.id) :
    graph.ShowsImport module.id listed (Report.ofImport graph listed) := by
  have hcalls := callsModule_moduleName hgraph
    (hdecided.exists_of_mem_importsOf hgraph hmodule hlisted)
  rcases listed with ⟨id, - | via⟩
  · exact ⟨hcalls, rfl, rfl⟩
  · obtain ⟨-, -, ⟨binder, hbinder, halias, rfl, howner⟩, -⟩ :=
      hdecided.of_inferred_mem_importsOf hgraph hmodule hlisted
    exact ⟨hcalls, rfl, binder, hbinder, halias, howner, rfl,
      congrArg some (hgraph.declarationName_eq hbinder)⟩

end Graph

namespace Plan.Decided

variable {graph : Graph} {depth : Nat} {byDefault : Bool} {plan : Plan}
  (h : plan.Decided graph depth byDefault) (hgraph : graph.WellFormed)
include h hgraph

/-- The target of an entry is declared. -/
theorem exists_target {entry : PlanEntry} (hentry : entry ∈ plan.entries) :
    ∃ target ∈ graph.declarations, graph.entry depth byDefault target = entry := by
  obtain ⟨target, htarget, rfl⟩ := h.mem_entries.1 hentry
  exact ⟨target, ((Graph.mem_exposed hgraph).1 htarget).1, rfl⟩

/-- The home of an entry is a module of the run. -/
theorem exists_homeModule {entry : PlanEntry} (hentry : entry ∈ plan.entries) :
    ∃ module ∈ graph.modules, module.id = entry.homeModule := by
  obtain ⟨target, hmem, rfl⟩ := h.exists_target hgraph hentry
  exact hgraph.owned target hmem

/-- An entry is emitted in a module of the run. -/
theorem exists_emissionModule {entry : PlanEntry} (hentry : entry ∈ plan.entries) :
    ∃ module ∈ graph.modules, module.id = entry.emissionModule := by
  obtain ⟨target, hmem, rfl⟩ := h.exists_target hgraph hentry
  exact Graph.exists_module_emissionModule hgraph hmem

theorem forall₂_showsEntry :
    List.Forall₂ graph.ShowsEntry plan.entries (Report.ofPlan graph plan).entries := by
  refine List.forall₂_map_right_iff.2 (List.forall₂_same.2 fun entry hentry ↦ ?_)
  obtain ⟨target, hmem, rfl⟩ := h.exists_target hgraph hentry
  exact Graph.showsEntry_ofEntry hgraph hmem

theorem forall₂_showsRelocation :
    List.Forall₂ graph.ShowsRelocation plan.relocations
      (Report.ofPlan graph plan).relocations := by
  refine List.forall₂_map_right_iff.2 (List.forall₂_same.2 fun relocation hrelocation ↦ ?_)
  rw [h.relocations, List.mem_filterMap] at hrelocation
  obtain ⟨target, htarget, hmoved⟩ := hrelocation
  exact Graph.showsRelocation_ofRelocation hgraph ((Graph.mem_exposed hgraph).1 htarget).1 hmoved

theorem forall₂_showsModule :
    List.Forall₂ graph.ShowsModule plan.modules (Report.ofPlan graph plan).modules := by
  refine List.forall₂_map_right_iff.2 (List.forall₂_same.2 fun planned hplanned ↦ ?_)
  rw [h.modules, List.mem_map] at hplanned
  obtain ⟨module, hmodule, rfl⟩ := hplanned
  refine ⟨⟨module, hmodule, rfl, rfl⟩, ?_, rfl⟩
  refine List.forall₂_map_right_iff.2 (List.forall₂_same.2 fun listed hlisted ↦ ?_)
  rw [← h.importsOf_eq hgraph hmodule] at hlisted
  exact Graph.showsImport_ofImport hgraph h hmodule hlisted

/-- **An import is shown with an alias exactly if it is shown as inferred**, and as explicit
otherwise. -/
theorem origin_iff {module : ModuleReport} (hmodule : module ∈ (Report.ofPlan graph plan).modules)
    {shown : ImportReport} (hshown : shown ∈ module.imports) :
    (shown.via.isSome ↔ shown.origin = "inferred") ∧
      (shown.via = none ↔ shown.origin = "explicit") := by
  obtain ⟨planned, -, hmoduleShown⟩ :=
    exists_mem_of_forall₂ (h.forall₂_showsModule hgraph).flip hmodule
  obtain ⟨listed, -, himport⟩ := exists_mem_of_forall₂ hmoduleShown.imports.flip hshown
  have hvia := himport.via
  split at hvia
  · obtain ⟨hnone, horigin⟩ := hvia
    simp [hnone, horigin]
  · obtain ⟨horigin, _, -, -, -, -, hsome⟩ := hvia
    simp [hsome, horigin]

/-! ### What names tell -/

/-- No two entries are shown under the same name. -/
theorem nodup_shown_declarations :
    ((Report.ofPlan graph plan).entries.map (·.declaration)).Nodup := by
  have hnames : (Report.ofPlan graph plan).entries.map (·.declaration) =
      (graph.exposed depth byDefault).map (·.name) := by
    rw [Report.ofPlan, h.entries, List.map_map, List.map_map]
    rfl
  rw [hnames]
  refine (Graph.nodup_wanted.filter _).map_on fun a ha b hb hname ↦ ?_
  exact hgraph.declaration_unique_of_name ((Graph.mem_exposed hgraph).1 ha).1
    ((Graph.mem_exposed hgraph).1 hb).1 hname

/-- A module emits the entries that are shown with its name. -/
theorem emitted_eq {shown : ModuleReport} (hshown : shown ∈ (Report.ofPlan graph plan).modules) :
    shown.emitted = ((Report.ofPlan graph plan).entries.filter
      fun entry ↦ entry.emissionModule = shown.name).length := by
  obtain ⟨planned, hplanned, rfl⟩ := List.mem_map.1 hshown
  rw [h.modules, List.mem_map] at hplanned
  obtain ⟨module, hmodule, rfl⟩ := hplanned
  rw [Report.ofPlan, List.filter_map, List.length_map]
  refine congrArg List.length (List.filter_congr fun entry hentry ↦ decide_eq_decide.2 ?_)
  show entry.emissionModule = module.id ↔ graph.moduleName entry.emissionModule = module.name
  rw [← hgraph.moduleName_eq hmodule]
  exact (Graph.moduleName_inj hgraph (h.exists_emissionModule hgraph hentry)
    ⟨module, hmodule, rfl⟩).symm

/-- The modules emit all entries. -/
theorem sum_emitted :
    ((Report.ofPlan graph plan).modules.map (·.emitted)).sum =
      (Report.ofPlan graph plan).entries.length := by
  have hemitted : (Report.ofPlan graph plan).modules.map (·.emitted) =
      (graph.modules.map (·.id)).map fun id ↦ (plan.emittedIn id).length := by
    rw [Report.ofPlan, h.modules, List.map_map, List.map_map, List.map_map]
    rfl
  rw [hemitted, Report.ofPlan, List.length_map]
  refine sum_length_filter hgraph.nodup_module_ids fun entry hentry ↦ ?_
  obtain ⟨module, hmodule, hid⟩ := h.exists_emissionModule hgraph hentry
  exact List.mem_map.2 ⟨module, hmodule, hid⟩

/-- An entry is shown at home exactly if it is not relocated. -/
theorem relocated_iff {shown : EntryReport}
    (hshown : shown ∈ (Report.ofPlan graph plan).entries) :
    shown.exposure = .relocated ↔ shown.homeModule ≠ shown.emissionModule := by
  obtain ⟨entry, hentry, rfl⟩ := List.mem_map.1 hshown
  show entry.exposure = .relocated ↔
    graph.moduleName entry.homeModule ≠ graph.moduleName entry.emissionModule
  rw [Ne, Graph.moduleName_inj hgraph (h.exists_homeModule hgraph hentry)
    (h.exists_emissionModule hgraph hentry)]
  obtain ⟨target, -, rfl⟩ := h.exists_target hgraph hentry
  have hrelocated : (graph.entry depth byDefault target).isRelocated ↔ _ :=
    Graph.isRelocated_entry
  rw [PlanEntry.isRelocated, decide_eq_true_iff] at hrelocated
  exact hrelocated.trans ne_comm

/-- The relocations of a report are those of its relocated entries, in order. -/
theorem forall₂_movedBy :
    List.Forall₂ EntryReport.MovedBy
      ((Report.ofPlan graph plan).entries.filter (·.exposure = .relocated))
      (Report.ofPlan graph plan).relocations := by
  have hmoves : List.Forall₂ (graph.Moves depth byDefault)
      (plan.entries.filter (·.isRelocated)) plan.relocations := by
    rw [h.entries, h.relocations]
    exact Graph.forall₂_moves fun target htarget ↦ ((Graph.mem_exposed hgraph).1 htarget).1
  have hdeclared : ∀ entry ∈ plan.entries.filter (·.isRelocated),
      graph.declarationName entry.canonical = entry.qualifiedName := by
    intro entry hentry
    obtain ⟨target, hmem, rfl⟩ := h.exists_target hgraph (List.mem_filter.1 hentry).1
    exact hgraph.declarationName_eq hmem
  rw [Report.ofPlan, List.filter_map]
  refine List.forall₂_map_left_iff.2 (List.forall₂_map_right_iff.2 ?_)
  refine ((List.forall₂_and_left _ _).2 ⟨hdeclared, hmoves⟩).imp fun entry relocation hmoved ↦ ?_
  obtain ⟨hname, hmoved⟩ := hmoved
  exact ⟨(congrArg graph.declarationName hmoved.declaration).trans hname,
    congrArg graph.moduleName hmoved.home, congrArg graph.moduleName hmoved.site⟩

/-- **A relocation tells one entry**, which is relocated as it says. -/
theorem exists_entry_of_relocation {relocation : RelocationReport}
    (hrelocation : relocation ∈ (Report.ofPlan graph plan).relocations) :
    ∃ shown, (Report.ofPlan graph plan).entries.filter
        (fun entry ↦ entry.declaration = relocation.declaration) = [shown] ∧
      shown.exposure = .relocated ∧ shown.MovedBy relocation := by
  obtain ⟨shown, hshown, hmoved⟩ :=
    exists_mem_of_forall₂ (h.forall₂_movedBy hgraph).flip hrelocation
  obtain ⟨hentry, hrelocated⟩ := List.mem_filter.1 hshown
  refine ⟨shown, ?_, of_decide_eq_true hrelocated, hmoved⟩
  rw [hmoved.declaration]
  exact filter_eq_singleton_of_nodup (h.nodup_shown_declarations hgraph) hentry

/-- **A relocated entry has one relocation.** -/
theorem exists_relocation_of_entry {shown : EntryReport}
    (hshown : shown ∈ (Report.ofPlan graph plan).entries)
    (hrelocated : shown.exposure = .relocated) :
    ∃ relocation, (Report.ofPlan graph plan).relocations.filter
        (fun relocation ↦ relocation.declaration = shown.declaration) = [relocation] ∧
      shown.MovedBy relocation := by
  have hmatched := h.forall₂_movedBy hgraph
  obtain ⟨relocation, hrelocation, hmoved⟩ := exists_mem_of_forall₂ hmatched
    (List.mem_filter.2 ⟨hshown, decide_eq_true hrelocated⟩)
  refine ⟨relocation, ?_, hmoved⟩
  -- Relocations are shown under the names of the entries that they are matched with.
  have hnames : (Report.ofPlan graph plan).relocations.map (·.declaration) =
      ((Report.ofPlan graph plan).entries.filter (·.exposure = .relocated)).map
        (·.declaration) := by
    rw [← List.forall₂_eq_eq_eq, List.forall₂_map_left_iff, List.forall₂_map_right_iff]
    exact hmatched.flip.imp fun relocation entry hmoved ↦ hmoved.declaration
  rw [← hmoved.declaration]
  refine filter_eq_singleton_of_nodup ?_ hrelocation
  rw [hnames]
  exact (h.nodup_shown_declarations hgraph).sublist (List.filter_sublist.map _)

end Plan.Decided

/-- **A report is a faithful view of its plan.** It shows every entry, module and relocation in
order, by the names that the graph has; its modules emit what its entries say, all of them together;
an import is shown with an alias just if it is shown as inferred; its relocations and its relocated
entries belong to each other; and the other entries are those that stay at home. -/
theorem Report.shows_plan {graph : Graph} (hbuilt : graph.Built) {depth : Nat} {byDefault : Bool}
    {plan : Plan} (hplan : (Run.ofGraph graph depth byDefault).plan = .ok plan)
    {report : Report} (hreport : Report.ofPlan graph plan = report) :
    List.Forall₂ graph.ShowsEntry plan.entries report.entries ∧
    List.Forall₂ graph.ShowsModule plan.modules report.modules ∧
    List.Forall₂ graph.ShowsRelocation plan.relocations report.relocations ∧
    plan.modules.map (·.id) = graph.modules.map (·.id) ∧
    (report.modules.map (·.emitted)).sum = report.entries.length ∧
    (∀ module ∈ report.modules, module.emitted =
      (report.entries.filter fun entry ↦ entry.emissionModule = module.name).length) ∧
    (∀ module ∈ report.modules, ∀ shown ∈ module.imports,
      (shown.via.isSome ↔ shown.origin = "inferred") ∧
        (shown.via = none ↔ shown.origin = "explicit")) ∧
    (∀ relocation ∈ report.relocations, ∃ shown,
      report.entries.filter (fun entry ↦ entry.declaration = relocation.declaration) = [shown] ∧
        shown.exposure = .relocated ∧ shown.MovedBy relocation) ∧
    (∀ shown ∈ report.entries, shown.exposure = .relocated → ∃ relocation,
      report.relocations.filter
          (fun relocation ↦ relocation.declaration = shown.declaration) = [relocation] ∧
        shown.MovedBy relocation) ∧
    (∀ shown ∈ report.entries,
      shown.exposure = .direct ∨ shown.exposure = .forwardedAlias ↔
        shown.homeModule = shown.emissionModule) := by
  subst hreport
  have hgraph := hbuilt.wellFormed
  have h := Run.decided_of_plan hgraph hplan
  refine ⟨h.forall₂_showsEntry hgraph, h.forall₂_showsModule hgraph,
    h.forall₂_showsRelocation hgraph, ?_, h.sum_emitted hgraph, fun _ ↦ h.emitted_eq hgraph,
    fun _ hmodule _ ↦ h.origin_iff hgraph hmodule, fun _ ↦ h.exists_entry_of_relocation hgraph,
    fun _ ↦ h.exists_relocation_of_entry hgraph, fun shown hshown ↦ ?_⟩
  · rw [h.modules, List.map_map]
    rfl
  · -- Of the three ways of exposure two are not relocations.
    rw [← not_iff_not, ← Ne, ← h.relocated_iff hgraph hshown]
    cases shown.exposure <;> simp

/-- In the sample the interface emits the point, which is the one entry and is relocated there. -/
theorem Document.sampleGraph_reported :
    ∃ plan, (Run.ofGraph sampleGraph 64 false).plan = .ok plan ∧
      (Report.ofPlan sampleGraph plan).modules.map (·.emitted) = [0, 1, 0] ∧
      (Report.ofPlan sampleGraph plan).relocations =
        [⟨"lib::Point", "core", "api", "api::Spot"⟩] ∧
      ((Report.ofPlan sampleGraph plan).modules.map (·.emitted)).sum =
        (Report.ofPlan sampleGraph plan).entries.length := by
  obtain ⟨plan, hplan⟩ : ∃ plan, (Run.ofGraph sampleGraph 64 false).plan = .ok plan := ⟨_, rfl⟩
  obtain ⟨-, -, -, -, hsum, -⟩ := Report.shows_plan sampleGraph_built hplan rfl
  refine ⟨plan, hplan, ?_, ?_, hsum⟩
  · cases hplan
    rfl
  · cases hplan
    rfl

end Exposure
