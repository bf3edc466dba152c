import Exposure.Proofs.Import.Lists
import Exposure.Proofs.Plan.Entries

/-!
# Decided plans

A run comes to a plan exactly if nothing is wrong anywhere: not with a visit, not with a slot,
and not with the ledger (`Plan.exists_ofSurvey_eq_ok`). Then the whole plan can be told from the
graph (`Plan.Decided`): it has the entries of the **exposed** targets, which are the wanted ones
that are not hidden, in their order; their relocations; and for each module the import list that
the ledger comes to.

The ledger itself is told in the same terms. What a module asks for and what its hand-written code
calls for is read off its marks (`Graph.AsksFor`, `Graph.CallsFor`), and references are those of
the binders of exposed targets (`Graph.reference_mem_ledger`).
-/

namespace Exposure

/-! ### When there is a plan -/

namespace Survey

/-- The verdicts on the slots of a survey. -/
def verdicts (graph : Graph) (survey : Survey) : List Verdict :=
  survey.slots.map (·.verdict graph)

/-- The records of a survey and of the verdicts on its slots. -/
def fullLedger (graph : Graph) (survey : Survey) : Import.Ledger :=
  survey.ledger ++ (survey.verdicts graph).flatMap (·.records)

/-- **Nothing is wrong anywhere** in a survey. -/
structure Clean (graph : Graph) (survey : Survey) : Prop where
  visits : survey.problems = []
  slots : ∀ slot ∈ survey.slots, (slot.verdict graph).problem? = none
  ledger : (Import.Ledger.settle graph (survey.fullLedger graph)).problems = []

/-- **What a survey comes to**: a plan of the entries and warnings of the verdicts, and of what the
ledger settles into. -/
structure ComesTo (graph : Graph) (survey : Survey) (plan : Plan) : Prop where
  entries : plan.entries = (survey.verdicts graph).filterMap (·.planned?)
  relocations : plan.relocations = (survey.fullLedger graph).relocations
  modules : plan.modules = graph.modules.map fun module ↦
    ⟨module.id, module.name, Import.Ledger.importList graph (survey.fullLedger graph) module,
      (survey.fullLedger graph).manualBlocks module.id⟩
  aliasTargets : plan.aliasTargets = survey.aliasTargets
  warnings : plan.warnings = (survey.verdicts graph).flatMap (·.warnings) ++
    (Import.Ledger.settle graph (survey.fullLedger graph)).warnings

theorem clean_iff {graph : Graph} {survey : Survey} :
    survey.Clean graph ↔
      survey.problems ++ (survey.verdicts graph).filterMap (·.problem?) ++
        (Import.Ledger.settle graph (survey.fullLedger graph)).problems = [] := by
  simp only [List.append_eq_nil_iff, List.filterMap_eq_nil_iff, verdicts, List.forall_mem_map]
  exact ⟨fun h ↦ ⟨⟨h.visits, h.slots⟩, h.ledger⟩, fun h ↦ ⟨h.1.1, h.1.2, h.2⟩⟩

end Survey

namespace Plan

variable {graph : Graph} {survey : Survey} {plan : Plan}

/-- **There is a plan exactly if nothing is wrong anywhere.** -/
theorem exists_ofSurvey_eq_ok :
    (∃ plan, ofSurvey graph survey = .ok plan) ↔ survey.Clean graph := by
  rw [Survey.clean_iff]
  unfold ofSurvey
  dsimp only
  split
  · rename_i hnil
    exact ⟨fun _ ↦ hnil, fun _ ↦ ⟨_, rfl⟩⟩
  · rename_i hproblems
    constructor
    · rintro ⟨plan, hplan⟩
      cases hplan
    · exact fun hnil ↦ absurd hnil hproblems

/-- **A plan consists of what its survey comes to.** -/
theorem comesTo_of_ofSurvey (h : ofSurvey graph survey = .ok plan) : survey.ComesTo graph plan := by
  unfold ofSurvey at h
  dsimp only at h
  split at h
  · cases h
    refine ⟨rfl, rfl, ?_, rfl, rfl⟩
    show List.zipWith _ graph.modules (graph.modules.map _) = _
    rw [List.zipWith_map_right, List.zipWith_self]
    rfl
  · cases h

end Plan

/-! ### The ledger of a run -/

namespace Graph

/-- A module asks for another by name: at its own scope, or at that of a name scope declared in
it. -/
def AsksFor (graph : Graph) (module : Module) (name : String) : Prop :=
  name ∈ Marks.payloads module.marks .importModule ∨
    ∃ scope ∈ graph.declarations, scope.kind = .scope ∧ scope.module = module.id ∧
      name ∈ Marks.payloads scope.marks .importModule

instance (graph : Graph) (module : Module) (name : String) :
    Decidable (graph.AsksFor module name) :=
  inferInstanceAs (Decidable (_ ∨ _))

/-- A module holds a piece of hand-written code: at its own scope, or at a name scope or a record
declared in it. -/
def Holds (graph : Graph) (module : Module) (owner code : String) : Prop :=
  (owner = module.name ∧ code ∈ Marks.payloads module.marks .manual) ∨
    ∃ declaration ∈ graph.declarations,
      (declaration.kind = .scope ∨ declaration.kind = .record) ∧
        declaration.module = module.id ∧ declaration.name = owner ∧
          code ∈ Marks.payloads declaration.marks .manual

/-- Hand-written code that a module holds calls for another by name. -/
def CallsFor (graph : Graph) (module : Module) (name : String) : Prop :=
  ∃ owner code, graph.Holds module owner code ∧ name ∈ Import.calledModules code

/-- The targets that are exposed: those wanted but not hidden. -/
def exposed (graph : Graph) (depth : Nat) (byDefault : Bool) : List Declaration :=
  (graph.wanted depth byDefault).filter fun target ↦ !target.carries .hidden

/-- All records of the run of a graph: those of its visits and those of its entries. -/
def ledger (graph : Graph) (depth : Nat) (byDefault : Bool) : Import.Ledger :=
  (Survey.ofRun (Run.ofGraph graph depth byDefault)).ledger ++
    (graph.exposed depth byDefault).flatMap (graph.records depth byDefault)

variable {graph : Graph} {depth : Nat} {byDefault : Bool}

/-- **Who is exposed**: the bindable declarations that are not hidden and visible or requested. -/
theorem mem_exposed (hgraph : graph.WellFormed) {target : Declaration} :
    target ∈ graph.exposed depth byDefault ↔
      target ∈ graph.declarations ∧ target.kind.isBindable ∧ ¬ target.carries .hidden ∧
        (graph.isVisible byDefault target ∨
          ∃ asking ∈ graph.declarations, graph.requests depth byDefault asking target) := by
  rw [exposed, List.mem_filter, mem_wanted hgraph, Bool.not_eq_true', Bool.not_eq_true]
  constructor
  · rintro ⟨⟨hmem, hbindable, hasked⟩, hshown⟩
    exact ⟨hmem, hbindable, hshown, hasked⟩
  · rintro ⟨hmem, hbindable, hshown, hasked⟩
    exact ⟨⟨hmem, hbindable, hasked⟩, hshown⟩

theorem mem_exposed_of_mem_wanted {target : Declaration}
    (hwanted : target ∈ graph.wanted depth byDefault) (hshown : ¬ target.carries .hidden) :
    target ∈ graph.exposed depth byDefault := by
  refine List.mem_filter.2 ⟨hwanted, ?_⟩
  rwa [Bool.not_eq_true', ← Bool.not_eq_true]

/-- What a target's records may be. -/
theorem mem_records {target : Declaration} {record : Import.Record} :
    record ∈ graph.records depth byDefault target ↔
      (∃ relocation, graph.relocation? depth byDefault target = some relocation ∧
        record = .relocation relocation) ∨
      ∃ binder ∈ graph.binders depth byDefault target,
        record = .reference binder.module (graph.emissionModule depth byDefault target)
          binder.id := by
  rw [records, List.mem_append, List.mem_map, List.mem_map]
  simp only [Option.mem_toList, eq_comm (a := record)]

end Graph

/-- What the records of a level of scope may be. -/
theorem Annotations.mem_records {module : ModuleId} {owner : String} {annotations : Annotations}
    {record : Import.Record} :
    record ∈ annotations.records module owner ↔
      (∃ name ∈ annotations.imports, record = .request module name) ∨
        ∃ code ∈ annotations.manualBlocks, record = .manual module (.ofCode owner code) := by
  rw [records, List.mem_append, List.mem_map, List.mem_map]
  simp only [eq_comm (a := record)]

namespace Survey

variable {graph : Graph} (hgraph : graph.WellFormed) (hread : graph.MarksRead) (depth : Nat)
  (byDefault : Bool)
include hgraph hread

/-- What is written at the scope of a module. -/
theorem mem_records_scope {module : Module} (hmodule : module ∈ graph.modules)
    {record : Import.Record} :
    record ∈ (Visit.scope module).records (Run.ofGraph graph depth byDefault) ↔
      (∃ name ∈ Marks.payloads module.marks .importModule, record = .request module.id name) ∨
        ∃ code ∈ Marks.payloads module.marks .manual,
          record = .manual module.id (.ofCode module.name code) := by
  obtain ⟨annotations, hannotations⟩ := hread.moduleAnnotations hmodule
  rw [Visit.records, Run.getModule?_store_ofGraph hgraph depth byDefault hmodule hannotations,
    Option.elim_some, Annotations.mem_records, Annotations.imports_of_read hannotations,
    Annotations.manualBlocks_of_read hannotations]

/-- What is written at a declaration. -/
theorem mem_records_member {declaration : Declaration} (hmem : declaration ∈ graph.declarations)
    {record : Import.Record} :
    record ∈ (Visit.member declaration).records (Run.ofGraph graph depth byDefault) ↔
      declaration.isAlias = false ∧
        ((∃ name ∈ Marks.payloads declaration.marks .importModule,
            record = .request declaration.module name) ∨
          ∃ code ∈ Marks.payloads declaration.marks .manual,
            record = .manual declaration.module (.ofCode declaration.name code)) := by
  obtain ⟨annotations, hannotations⟩ := hread.annotations hmem
  rw [Visit.records, Run.get?_store_ofGraph hgraph depth byDefault hmem hannotations]
  cases declaration.isAlias with
  | true => simp
  | false =>
    rw [if_neg Bool.false_ne_true, Option.elim_some, Annotations.mem_records,
      Annotations.imports_of_read hannotations, Annotations.manualBlocks_of_read hannotations]
    simp

omit hread in
/-- The ledger of a survey holds what is written at the scopes of modules and at declarations. -/
theorem mem_ledger_ofRun {record : Import.Record} :
    record ∈ (ofRun (Run.ofGraph graph depth byDefault)).ledger ↔
      (∃ module ∈ graph.modules,
        record ∈ (Visit.scope module).records (Run.ofGraph graph depth byDefault)) ∨
      ∃ declaration ∈ graph.declarations,
        record ∈ (Visit.member declaration).records (Run.ofGraph graph depth byDefault) := by
  rw [ofRun_eq, ledger_foldl_make, show Survey.empty.ledger = [] from rfl, List.nil_append,
    List.mem_flatMap, Run.graph_ofGraph]
  constructor
  · rintro ⟨visit, hvisit, hrecord⟩
    have hwithin := hgraph.mem_visits.1 hvisit
    cases visit with
    | scope module => exact .inl ⟨module, hwithin, hrecord⟩
    | member declaration => exact .inr ⟨declaration, hwithin, hrecord⟩
  · rintro (⟨module, hmodule, hrecord⟩ | ⟨declaration, hmem, hrecord⟩)
    · exact ⟨.scope module, hgraph.mem_visits.2 hmodule, hrecord⟩
    · exact ⟨.member declaration, hgraph.mem_visits.2 hmem, hrecord⟩

end Survey

namespace Graph

variable {graph : Graph} (hgraph : graph.WellFormed) (hread : graph.MarksRead) {depth : Nat}
  {byDefault : Bool}
include hgraph hread

/-- **What is in the ledger**: what modules ask for and hold by their marks, and the relocations
and the references of exposed targets. -/
theorem mem_ledger {record : Import.Record} :
    record ∈ graph.ledger depth byDefault ↔
      (∃ module ∈ graph.modules, ∃ name, graph.AsksFor module name ∧
        record = .request module.id name) ∨
      (∃ module ∈ graph.modules, ∃ owner code, graph.Holds module owner code ∧
        record = .manual module.id (.ofCode owner code)) ∨
      (∃ target ∈ graph.exposed depth byDefault, ∃ relocation,
        graph.relocation? depth byDefault target = some relocation ∧
          record = .relocation relocation) ∨
      ∃ target ∈ graph.exposed depth byDefault, ∃ binder ∈ graph.binders depth byDefault target,
        record = .reference binder.module (graph.emissionModule depth byDefault target)
          binder.id := by
  rw [ledger, List.mem_append, List.mem_flatMap, Survey.mem_ledger_ofRun hgraph]
  constructor
  · rintro ((⟨module, hmodule, hrecord⟩ | ⟨declaration, hmem, hrecord⟩) |
      ⟨target, htarget, hrecord⟩)
    · rw [Survey.mem_records_scope hgraph hread depth byDefault hmodule] at hrecord
      rcases hrecord with ⟨name, hname, rfl⟩ | ⟨code, hcode, rfl⟩
      · exact .inl ⟨module, hmodule, name, .inl hname, rfl⟩
      · exact .inr (.inl ⟨module, hmodule, _, code, .inl ⟨rfl, hcode⟩, rfl⟩)
    · -- Where a directive with a payload stands, its declaration is of a kind that allows it.
      rw [Survey.mem_records_member hgraph hread depth byDefault hmem] at hrecord
      obtain ⟨module, hmodule, hid⟩ := hgraph.owned declaration hmem
      rcases hrecord with ⟨-, ⟨name, hname, rfl⟩ | ⟨code, hcode, rfl⟩⟩
      · have hallowed := hread.allowedOn_of_mem_payloads hmem hname
        have hkind : declaration.kind = .scope := by simpa [Directive.allowedOn] using hallowed
        exact .inl ⟨module, hmodule, name, .inr ⟨declaration, hmem, hkind, hid.symm, hname⟩,
          by rw [hid]⟩
      · have hallowed := hread.allowedOn_of_mem_payloads hmem hcode
        have hkind : declaration.kind = .scope ∨ declaration.kind = .record := by
          simpa [Directive.allowedOn] using hallowed
        exact .inr (.inl ⟨module, hmodule, _, code,
          .inr ⟨declaration, hmem, hkind, hid.symm, rfl, hcode⟩, by rw [hid]⟩)
    · rcases mem_records.1 hrecord with ⟨relocation, hrelocation, rfl⟩ | ⟨binder, hbinder, rfl⟩
      · exact .inr (.inr (.inl ⟨target, htarget, relocation, hrelocation, rfl⟩))
      · exact .inr (.inr (.inr ⟨target, htarget, binder, hbinder, rfl⟩))
  · -- The other way each record is found where it was made, at a module, a declaration or a target.
    rintro (⟨module, hmodule, name, hasks, rfl⟩ | ⟨module, hmodule, owner, code, hholds, rfl⟩ |
      ⟨target, htarget, relocation, hrelocation, rfl⟩ | ⟨target, htarget, binder, hbinder, rfl⟩)
    · rcases hasks with hname | ⟨scope, hscope, hkind, hid, hname⟩
      · refine .inl (.inl ⟨module, hmodule, ?_⟩)
        rw [Survey.mem_records_scope hgraph hread depth byDefault hmodule]
        exact .inl ⟨name, hname, rfl⟩
      · refine .inl (.inr ⟨scope, hscope, ?_⟩)
        rw [Survey.mem_records_member hgraph hread depth byDefault hscope, hid]
        exact ⟨by simp [Declaration.isAlias, hkind], .inl ⟨name, hname, rfl⟩⟩
    · rcases hholds with ⟨rfl, hcode⟩ | ⟨declaration, hmem, hkind, hid, rfl, hcode⟩
      · refine .inl (.inl ⟨module, hmodule, ?_⟩)
        rw [Survey.mem_records_scope hgraph hread depth byDefault hmodule]
        exact .inr ⟨code, hcode, rfl⟩
      · refine .inl (.inr ⟨declaration, hmem, ?_⟩)
        rw [Survey.mem_records_member hgraph hread depth byDefault hmem, hid]
        refine ⟨?_, .inr ⟨code, hcode, rfl⟩⟩
        rcases hkind with hkind | hkind <;> simp [Declaration.isAlias, hkind]
    · exact .inr ⟨target, htarget, mem_records.2 (.inl ⟨relocation, hrelocation, rfl⟩)⟩
    · exact .inr ⟨target, htarget, mem_records.2 (.inr ⟨binder, hbinder, rfl⟩)⟩

/-- **What a module asks for** is read off the marks. -/
theorem request_mem_ledger {module : Module} (hmodule : module ∈ graph.modules) {name : String} :
    .request module.id name ∈ graph.ledger depth byDefault ↔ graph.AsksFor module name := by
  rw [mem_ledger hgraph hread]
  constructor
  · rintro (⟨other, hother, called, hasks, h⟩ | ⟨_, _, _, _, _, h⟩ | ⟨_, _, _, _, h⟩ |
      ⟨_, _, _, _, h⟩)
    · rw [Import.Record.request.injEq] at h
      obtain ⟨hid, rfl⟩ := h
      rwa [hgraph.module_unique hmodule hother hid]
    all_goals cases h
  · exact fun hasks ↦ .inl ⟨module, hmodule, name, hasks, rfl⟩

/-- **What hand-written code calls for** is read off the marks. -/
theorem manual_mem_ledger {module : Module} (hmodule : module ∈ graph.modules) {name : String} :
    (∃ block, .manual module.id block ∈ graph.ledger depth byDefault ∧ name ∈ block.references) ↔
      graph.CallsFor module name := by
  constructor
  · rintro ⟨block, hblock, hname⟩
    rcases (mem_ledger hgraph hread).1 hblock with ⟨_, _, _, _, h⟩ |
      ⟨other, hother, owner, code, hholds, h⟩ | ⟨_, _, _, _, h⟩ | ⟨_, _, _, _, h⟩
    · cases h
    · rw [Import.Record.manual.injEq] at h
      obtain ⟨hid, rfl⟩ := h
      rw [hgraph.module_unique hmodule hother hid]
      exact ⟨owner, code, hholds, hname⟩
    all_goals cases h
  · rintro ⟨owner, code, hholds, hname⟩
    exact ⟨.ofCode owner code, (mem_ledger hgraph hread).2
      (.inr (.inl ⟨module, hmodule, owner, code, hholds, rfl⟩)), hname⟩

/-- **What modules refer to** is what the binders of exposed targets do. -/
theorem reference_mem_ledger {id site : ModuleId} {via : DeclId} :
    .reference id site via ∈ graph.ledger depth byDefault ↔
      ∃ target ∈ graph.exposed depth byDefault, ∃ binder ∈ graph.binders depth byDefault target,
        binder.module = id ∧ graph.emissionModule depth byDefault target = site ∧
          binder.id = via := by
  rw [mem_ledger hgraph hread]
  constructor
  · rintro (⟨_, _, _, _, h⟩ | ⟨_, _, _, _, _, h⟩ | ⟨_, _, _, _, h⟩ |
      ⟨target, htarget, binder, hbinder, h⟩)
    · cases h
    · cases h
    · cases h
    · rw [Import.Record.reference.injEq] at h
      exact ⟨target, htarget, binder, hbinder, h.1.symm, h.2.1.symm, h.2.2.symm⟩
  · rintro ⟨target, htarget, binder, hbinder, rfl, rfl, rfl⟩
    exact .inr (.inr (.inr ⟨target, htarget, binder, hbinder, rfl⟩))

end Graph

/-! ### Plans of orderly graphs -/

namespace Graph

variable {graph : Graph} {depth : Nat} {byDefault : Bool} (hgraph : graph.WellFormed)
  (horderly : graph.Orderly depth)

/-- The slot of a hidden target is neither emitted nor a problem. -/
theorem verdict_slot_of_hidden (graph : Graph) (depth : Nat) (byDefault : Bool)
    {target : Declaration} (hhidden : target.carries .hidden) :
    ∃ warnings, (graph.slot depth byDefault target).verdict graph = .hidden warnings := by
  rw [Slot.verdict, slot, if_pos hhidden]
  exact ⟨_, rfl⟩

include hgraph horderly

/-- Nothing is wrong with any slot exactly if every exposed target is emittable. -/
theorem forall_slots_iff :
    (∀ slot ∈ (Survey.ofRun (Run.ofGraph graph depth byDefault)).slots,
        (slot.verdict graph).problem? = none) ↔
      ∀ target ∈ graph.exposed depth byDefault, graph.Emittable depth byDefault target := by
  rw [Survey.slots_ofRun hgraph horderly, List.forall_mem_map]
  constructor
  · intro h target htarget
    obtain ⟨hwanted, hshown⟩ := List.mem_filter.1 htarget
    have hshown : ¬ target.carries .hidden := by simpa using hshown
    exact (problem?_verdict_slot hgraph horderly hwanted hshown).1 (h target hwanted)
  · intro h target hwanted
    by_cases hshown : target.carries .hidden
    · obtain ⟨warnings, hverdict⟩ := verdict_slot_of_hidden graph depth byDefault hshown
      rw [hverdict]
      rfl
    · exact (problem?_verdict_slot hgraph horderly hwanted hshown).2
        (h target (mem_exposed_of_mem_wanted hwanted hshown))

section Emittable

variable (hemittable : ∀ target ∈ graph.exposed depth byDefault,
  graph.Emittable depth byDefault target)
include hemittable

/-- A wanted target is hidden, or it is emitted. -/
theorem verdict_slot_of_mem_wanted {target : Declaration}
    (hwanted : target ∈ graph.wanted depth byDefault) :
    (target.carries .hidden ∧
        ∃ warnings, (graph.slot depth byDefault target).verdict graph = .hidden warnings) ∨
      (target.carries .hidden = false ∧ (graph.slot depth byDefault target).verdict graph =
        .emitted (graph.entry depth byDefault target) (graph.records depth byDefault target)) := by
  by_cases hshown : target.carries .hidden
  · exact .inl ⟨hshown, verdict_slot_of_hidden graph depth byDefault hshown⟩
  · have hexposed := mem_exposed_of_mem_wanted hwanted hshown
    exact .inr ⟨by simpa using hshown,
      verdict_slot_eq_emitted hgraph horderly hwanted hshown (hemittable target hexposed)⟩

/-- **The entries of an orderly graph** are those of its exposed targets. -/
theorem planned?_verdicts :
    ((Survey.ofRun (Run.ofGraph graph depth byDefault)).verdicts graph).filterMap (·.planned?) =
      (graph.exposed depth byDefault).map (graph.entry depth byDefault) := by
  rw [Survey.verdicts, Survey.slots_ofRun hgraph horderly, List.map_map, List.filterMap_map,
    exposed, ← List.filterMap_eq_map, List.filterMap_filter]
  refine List.filterMap_congr fun target hwanted ↦ ?_
  rcases verdict_slot_of_mem_wanted hgraph horderly hemittable hwanted with
    ⟨hhidden, warnings, hverdict⟩ | ⟨hshown, hverdict⟩
  · simp [hverdict, hhidden, Verdict.planned?]
  · simp [hverdict, hshown, Verdict.planned?]

/-- The records of an orderly graph are those of its visits and of its exposed targets. -/
theorem fullLedger_ofRun :
    (Survey.ofRun (Run.ofGraph graph depth byDefault)).fullLedger graph =
      graph.ledger depth byDefault := by
  rw [Survey.fullLedger, ledger, Survey.verdicts, Survey.slots_ofRun hgraph horderly,
    List.map_map, List.flatMap_map, exposed, flatMap_filter]
  congr 1
  refine List.flatMap_congr fun target hwanted ↦ ?_
  rcases verdict_slot_of_mem_wanted hgraph horderly hemittable hwanted with
    ⟨hhidden, warnings, hverdict⟩ | ⟨hshown, hverdict⟩
  · simp [hverdict, hhidden, Verdict.records]
  · simp [hverdict, hshown, Verdict.records]

end Emittable

/-- The relocations of a ledger are those of the exposed targets. -/
theorem relocations_ledger :
    (graph.ledger depth byDefault).relocations =
      (graph.exposed depth byDefault).filterMap (graph.relocation? depth byDefault) := by
  -- Visits write down no relocations.
  have hvisits : (Survey.ofRun (Run.ofGraph graph depth byDefault)).ledger.relocations = [] := by
    refine List.filterMap_eq_nil_iff.2 fun record hrecord ↦ ?_
    rcases (Survey.mem_ledger_ofRun hgraph depth byDefault).1 hrecord with
      ⟨module, hmodule, hrecord⟩ | ⟨declaration, hmem, hrecord⟩
    · rw [Survey.mem_records_scope hgraph horderly.marksRead depth byDefault hmodule] at hrecord
      rcases hrecord with ⟨_, -, rfl⟩ | ⟨_, -, rfl⟩ <;> rfl
    · rw [Survey.mem_records_member hgraph horderly.marksRead depth byDefault hmem] at hrecord
      rcases hrecord with ⟨-, ⟨_, -, rfl⟩ | ⟨_, -, rfl⟩⟩ <;> rfl
  have htarget (target : Declaration) :
      Import.Ledger.relocations (graph.records depth byDefault target) =
        (graph.relocation? depth byDefault target).toList := by
    rw [Import.Ledger.relocations, records, List.filterMap_append, List.filterMap_map,
      List.filterMap_map]
    refine (congrArg₂ (· ++ ·) (List.filterMap_some ..) ?_).trans (List.append_nil _)
    exact List.filterMap_eq_nil_iff.2 fun _ _ ↦ rfl
  rw [Import.Ledger.relocations] at hvisits
  rw [ledger, Import.Ledger.relocations, List.filterMap_append, hvisits, List.nil_append,
    List.filterMap_flatMap, List.filterMap_eq_flatMap_toList]
  exact List.flatMap_congr fun target _ ↦ htarget target

end Graph

/-! ### The plan of a graph -/

/-- **What a plan is**, told from the graph. -/
structure Plan.Decided (graph : Graph) (depth : Nat) (byDefault : Bool) (plan : Plan) : Prop where
  orderly : graph.Orderly depth
  emittable : ∀ target ∈ graph.exposed depth byDefault, graph.Emittable depth byDefault target
  entries : plan.entries = (graph.exposed depth byDefault).map (graph.entry depth byDefault)
  relocations : plan.relocations =
    (graph.exposed depth byDefault).filterMap (graph.relocation? depth byDefault)
  modules : plan.modules = graph.modules.map fun module ↦
    ⟨module.id, module.name,
      Import.Ledger.importList graph (graph.ledger depth byDefault) module,
      (graph.ledger depth byDefault).manualBlocks module.id⟩

/-- **A plan is what the graph tells.** -/
theorem Run.decided_of_plan {graph : Graph} (hgraph : graph.WellFormed) {depth : Nat}
    {byDefault : Bool} {plan : Plan} (h : (Run.ofGraph graph depth byDefault).plan = .ok plan) :
    plan.Decided graph depth byDefault := by
  have hclean := Plan.exists_ofSurvey_eq_ok.1 ⟨plan, h⟩
  obtain ⟨hentries, hrelocations, hmodules, -, -⟩ := Plan.comesTo_of_ofSurvey h
  have horderly := (Survey.problems_ofRun_eq_nil hgraph depth byDefault).1 hclean.visits
  have hemittable := (Graph.forall_slots_iff hgraph horderly).1 hclean.slots
  have hledger := Graph.fullLedger_ofRun hgraph horderly hemittable
  rw [Run.graph_ofGraph] at hentries hrelocations hmodules
  refine ⟨horderly, hemittable, ?_, ?_, ?_⟩
  · rw [hentries, Graph.planned?_verdicts hgraph horderly hemittable]
  · rw [hrelocations, hledger, Graph.relocations_ledger hgraph horderly]
  · rw [hmodules, hledger]

namespace Plan.Decided

variable {graph : Graph} {depth : Nat} {byDefault : Bool} {plan : Plan}

/-- The generated modules are numbered as those of the run. -/
theorem module?_eq (h : plan.Decided graph depth byDefault) (id : ModuleId) :
    plan.module? id = (graph.module? id).map fun module ↦
      ⟨module.id, module.name,
        Import.Ledger.importList graph (graph.ledger depth byDefault) module,
        (graph.ledger depth byDefault).manualBlocks module.id⟩ := by
  rw [Plan.module?, h.modules, nth?_map, Graph.module?]

/-- A module of the run has the import list that the ledger comes to. -/
theorem importsOf_eq (h : plan.Decided graph depth byDefault) (hgraph : graph.WellFormed)
    {module : Module} (hmodule : module ∈ graph.modules) :
    plan.importsOf module.id =
      Import.Ledger.importList graph (graph.ledger depth byDefault) module := by
  rw [Plan.importsOf, h.module?_eq, hgraph.module?_eq_some.2 ⟨hmodule, rfl⟩]
  rfl

/-- The entries of a plan are those of exposed targets. -/
theorem mem_entries (h : plan.Decided graph depth byDefault) {entry : PlanEntry} :
    entry ∈ plan.entries ↔
      ∃ target ∈ graph.exposed depth byDefault, graph.entry depth byDefault target = entry := by
  rw [h.entries, List.mem_map]

end Plan.Decided
end Exposure
