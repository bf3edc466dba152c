import Exposure.Proofs.Document.Built
import Exposure.Proofs.Plan.Decided

/-!
# Validity

When does a run come to a plan? Exactly if its graph is **valid** (`Graph.Valid`), which is said
here without any regard to how a run proceeds: all marks read, all alias chains end, nothing is
asked to be both exposed and hidden, the aliases of a target agree about its name and its place,
and modules ask for what they need (`Run.exists_plan_iff`).

A run looks at less than that. It asks the requesters of exposed targets only, in the order of the
visits, and stops looking at an alias at the first problem with it. Nothing is missed thereby: an
alias that is encouraged or designates a site is a requester if it is not hidden, and its target is
exposed if it is not hidden either.
-/

namespace Exposure

namespace Graph

/-- An alias of a target that is not hidden: its chain ends at the target. -/
structure OpenAlias (graph : Graph) (depth : Nat) (target asking : Declaration) : Prop where
  mem : asking ∈ graph.declarations
  isAlias : asking.isAlias
  leads : graph.target? depth asking = some target
  shown : ¬ asking.carries .hidden

/-- **A valid graph**: nothing stands against a plan. -/
structure Valid (graph : Graph) (depth : Nat) : Prop where
  /-- Every mark of a declaration reads. -/
  declarations_read : ∀ declaration ∈ graph.declarations, ∀ mark ∈ declaration.marks,
    ∃ item, mark.read declaration.name (.declaration declaration.kind) = .ok item
  /-- Every mark of a module reads. -/
  modules_read : ∀ module ∈ graph.modules, ∀ mark ∈ module.marks,
    ∃ item, mark.read module.name .moduleScope = .ok item
  /-- Every alias resolves, whatever its marks say. -/
  aliases_resolve : ∀ declaration ∈ graph.declarations, declaration.isAlias →
    ∃ chain, Alias.resolve graph depth declaration = .ok chain
  /-- No declaration is hidden and asks for exposure. -/
  declarations_agree : ∀ declaration ∈ graph.declarations, ¬ (declaration.carries .hidden ∧
    (declaration.carries .visible ∨ declaration.carries .encourage ∨
      declaration.carries .exposeHere))
  /-- No module is hidden and asks for exposure. -/
  modules_agree : ∀ module ∈ graph.modules, ¬ (Marks.carry module.marks .hidden ∧
    (Marks.carry module.marks .visible ∨ Marks.carry module.marks .encourage ∨
      Marks.carry module.marks .exposeHere))
  /-- The site that an alias of a bindable target asks for first is a module of the run. -/
  sites_known : ∀ asking target, graph.OpenAlias depth target asking → target.kind.isBindable →
    ∀ name, Marks.destination? asking.marks = some (.named name) → graph.containsModule name
  /-- No shown target has two encouraged aliases. -/
  one_encouraged : ∀ target ∈ graph.declarations, target.kind.isBindable →
    ¬ target.carries .hidden → ∀ a b, graph.OpenAlias depth target a →
      graph.OpenAlias depth target b → a.carries .encourage → b.carries .encourage → a = b
  /-- No shown target has aliases that designate two sites. -/
  one_site : ∀ target ∈ graph.declarations, target.kind.isBindable →
    ¬ target.carries .hidden → ∀ a b, graph.OpenAlias depth target a →
      graph.OpenAlias depth target b → ∀ site other,
        graph.site? a = some site → graph.site? b = some other → site = other
  /-- Whatever a module asks for is a module of the run. -/
  imports_known : ∀ module ∈ graph.modules, ∀ name, graph.AsksFor module name →
    graph.containsModule name
  /-- Whatever other module of the run hand-written code calls for is asked for. -/
  calls_asked : ∀ module ∈ graph.modules, ∀ name, graph.CallsFor module name →
    name = module.name ∨ ¬ graph.containsModule name ∨ graph.AsksFor module name

variable {graph : Graph} {depth : Nat} {byDefault : Bool}

/-! ### Aliases of a target -/

/-- A requester of a target is an alias of it that is not hidden. -/
theorem OpenAlias.of_mem_requesters (hgraph : graph.WellFormed) {target asking : Declaration}
    (h : asking ∈ graph.requesters depth byDefault target) :
    graph.OpenAlias depth target asking := by
  obtain ⟨hmem, hrequests⟩ := (mem_requesters hgraph).1 h
  obtain ⟨halias, htarget, hshown, -⟩ := requests_iff.1 hrequests
  exact ⟨hmem, halias, htarget, hshown⟩

/-- An alias that asks for exposure is a requester, if it is not hidden. -/
theorem OpenAlias.mem_requesters (hgraph : graph.WellFormed) (byDefault : Bool)
    {target asking : Declaration} (h : graph.OpenAlias depth target asking)
    (hasks : asking.asksExposure) : asking ∈ graph.requesters depth byDefault target :=
  (Graph.mem_requesters hgraph).2
    ⟨h.mem, requests_iff.2 ⟨h.isAlias, h.leads, h.shown, .inl hasks⟩⟩

/-- What is requested is exposed, if it is bindable and not hidden. -/
theorem mem_exposed_of_mem_requesters (hgraph : graph.WellFormed) {target asking : Declaration}
    (hmem : target ∈ graph.declarations) (hbindable : target.kind.isBindable)
    (hshown : ¬ target.carries .hidden) (h : asking ∈ graph.requesters depth byDefault target) :
    target ∈ graph.exposed depth byDefault :=
  (mem_exposed hgraph).2
    ⟨hmem, hbindable, hshown, .inr ⟨asking, (Graph.mem_requesters hgraph).1 h⟩⟩

/-! ### The conditions of a run -/

/-- What a run asks of visits, told as part of validity. -/
theorem orderly_iff :
    graph.Orderly depth ↔
      graph.MarksRead ∧
      (∀ declaration ∈ graph.declarations, declaration.isAlias →
        ∃ chain, Alias.resolve graph depth declaration = .ok chain) ∧
      ((∀ declaration ∈ graph.declarations, ¬ Marks.conflict declaration.marks) ∧
        ∀ module ∈ graph.modules, ¬ Marks.conflict module.marks) ∧
      ∀ asking target, graph.OpenAlias depth target asking → target.kind.isBindable →
        ∀ name, Marks.destination? asking.marks = some (.named name) →
          graph.containsModule name := by
  constructor
  · intro h
    refine ⟨h.marksRead, fun declaration hmem ↦ (h.declarations declaration hmem).resolves,
      ⟨fun declaration hmem ↦ (h.declarations declaration hmem).agrees,
        fun module hmem ↦ (h.modules module hmem).agrees⟩, ?_⟩
    rintro asking target ⟨hmem, halias, hleads, hshown⟩ hbindable
    exact (h.declarations asking hmem).site_known halias hshown target hleads hbindable
  · rintro ⟨hread, hresolves, ⟨hdeclarations, hmodules⟩, hsites⟩
    refine ⟨fun module hmem ↦ ⟨hread.modules module hmem, hmodules module hmem⟩,
      fun declaration hmem ↦ ⟨hread.declarations declaration hmem, hresolves declaration hmem,
        hdeclarations declaration hmem, ?_⟩⟩
    exact fun halias hshown target hleads hbindable ↦
      hsites declaration target ⟨hmem, halias, hleads, hshown⟩ hbindable

/-- **The aliases of exposed targets agree exactly if those of all shown targets do.** -/
theorem forall_emittable_iff (hgraph : graph.WellFormed) :
    (∀ target ∈ graph.exposed depth byDefault, graph.Emittable depth byDefault target) ↔
      ∀ target ∈ graph.declarations, target.kind.isBindable → ¬ target.carries .hidden →
        ∀ a b, graph.OpenAlias depth target a → graph.OpenAlias depth target b →
          (a.carries .encourage → b.carries .encourage → a = b) ∧
            ∀ site other, graph.site? a = some site → graph.site? b = some other →
              site = other := by
  constructor
  · intro h target hmem hbindable hshown a b ha hb
    -- Either alias that asks is a requester, so the target is exposed.
    have hemittable {asking : Declaration}
        (hasking : asking ∈ graph.requesters depth byDefault target) :
        graph.Emittable depth byDefault target :=
      h target (mem_exposed_of_mem_requesters hgraph hmem hbindable hshown hasking)
    constructor
    · intro haencourage hbencourage
      have ha' := ha.mem_requesters hgraph byDefault
        (Marks.askExposure_iff.2 (.inr (.inl haencourage)))
      have hb' := hb.mem_requesters hgraph byDefault
        (Marks.askExposure_iff.2 (.inr (.inl hbencourage)))
      exact (hemittable ha').one_encouraged a ha' b hb' haencourage hbencourage
    · intro site other hsite hother
      have ha' := ha.mem_requesters hgraph byDefault
        (Marks.askExposure_iff.2 (.inr (.inr (carries_exposeHere_of_site? hsite))))
      have hb' := hb.mem_requesters hgraph byDefault
        (Marks.askExposure_iff.2 (.inr (.inr (carries_exposeHere_of_site? hother))))
      exact (hemittable ha').one_site a ha' b hb' site other hsite hother
  · intro h target htarget
    obtain ⟨hmem, hbindable, hshown, -⟩ := (mem_exposed hgraph).1 htarget
    have hopen {asking : Declaration}
        (hasking : asking ∈ graph.requesters depth byDefault target) :
        graph.OpenAlias depth target asking := .of_mem_requesters hgraph hasking
    exact ⟨fun a ha b hb ↦ (h target hmem hbindable hshown a b (hopen ha) (hopen hb)).1,
      fun a ha b hb ↦ (h target hmem hbindable hshown a b (hopen ha) (hopen hb)).2⟩

/-- **Modules ask for what they need exactly if the ledger comes to no problem.** -/
theorem settle_ledger_eq_nil_iff (hgraph : graph.WellFormed) (hread : graph.MarksRead) :
    (Import.Ledger.settle graph (graph.ledger depth byDefault)).problems = [] ↔
      ∀ module ∈ graph.modules,
        (∀ name, graph.AsksFor module name → graph.containsModule name) ∧
          ∀ name, graph.CallsFor module name →
            name = module.name ∨ ¬ graph.containsModule name ∨ graph.AsksFor module name := by
  rw [Import.Ledger.settle]
  dsimp only
  rw [List.flatMap_eq_nil_iff]
  refine forall₂_congr fun module hmodule ↦ ?_
  rw [List.append_eq_nil_iff, Import.Ledger.danglingImports_eq_nil,
    Import.Ledger.missingImports_eq_nil]
  have hasks (name : String) : name ∈ (graph.ledger depth byDefault).requested module.id ↔
      graph.AsksFor module name := by
    rw [Import.Ledger.mem_requested, request_mem_ledger hgraph hread hmodule]
  -- What is asked for is in the ledger as such; what is called for is in its blocks of code.
  refine and_congr (forall_congr' fun name ↦ by rw [hasks]) ?_
  constructor
  · intro h name hcalls
    obtain ⟨block, hblock, hname⟩ := (manual_mem_ledger hgraph hread hmodule).2 hcalls
    by_contra hmissing
    rw [not_or, not_or, not_not] at hmissing
    obtain ⟨hother, hcontains, hunasked⟩ := hmissing
    exact hunasked ((hasks name).1
      (h block (Import.Ledger.mem_manualBlocks.2 hblock) name hname hother hcontains))
  · intro h block hblock name hname hother hcontains
    have hcalls := (manual_mem_ledger hgraph hread hmodule).1
      ⟨block, Import.Ledger.mem_manualBlocks.1 hblock, hname⟩
    rcases h name hcalls with hself | hunknown | hasked
    · exact absurd hself hother
    · exact absurd hcontains hunknown
    · exact (hasks name).2 hasked

/-- Nothing is wrong with the survey of a run exactly if its graph is valid. -/
theorem clean_iff_valid (hgraph : graph.WellFormed) :
    (Survey.ofRun (Run.ofGraph graph depth byDefault)).Clean graph ↔ graph.Valid depth := by
  constructor
  · intro hclean
    have horderly := (Survey.problems_ofRun_eq_nil hgraph depth byDefault).1 hclean.visits
    have hemittable := (forall_slots_iff hgraph horderly).1 hclean.slots
    have hledger := hclean.ledger
    rw [fullLedger_ofRun hgraph horderly hemittable,
      settle_ledger_eq_nil_iff hgraph horderly.marksRead] at hledger
    obtain ⟨hread, hresolves, ⟨hdeclarations, hmodules⟩, hsites⟩ := orderly_iff.1 horderly
    have hagree := (forall_emittable_iff hgraph).1 hemittable
    exact
      { declarations_read := hread.declarations
        modules_read := hread.modules
        aliases_resolve := hresolves
        declarations_agree := fun declaration hmem h ↦
          hdeclarations declaration hmem (Marks.conflict_iff.2 h)
        modules_agree := fun module hmem h ↦ hmodules module hmem (Marks.conflict_iff.2 h)
        sites_known := hsites
        one_encouraged := fun target hmem hbindable hshown a b ha hb ↦
          (hagree target hmem hbindable hshown a b ha hb).1
        one_site := fun target hmem hbindable hshown a b ha hb ↦
          (hagree target hmem hbindable hshown a b ha hb).2
        imports_known := fun module hmem ↦ (hledger module hmem).1
        calls_asked := fun module hmem ↦ (hledger module hmem).2 }
  · intro hvalid
    -- Slots and ledger are known once the visits are in order, so these come first.
    have horderly : graph.Orderly depth := orderly_iff.2
      ⟨⟨hvalid.declarations_read, hvalid.modules_read⟩, hvalid.aliases_resolve,
        ⟨fun declaration hmem h ↦
            hvalid.declarations_agree declaration hmem (Marks.conflict_iff.1 h),
          fun module hmem h ↦ hvalid.modules_agree module hmem (Marks.conflict_iff.1 h)⟩,
        hvalid.sites_known⟩
    have hemittable : ∀ target ∈ graph.exposed depth byDefault,
        graph.Emittable depth byDefault target :=
      (forall_emittable_iff hgraph).2 fun target hmem hbindable hshown a b ha hb ↦
        ⟨hvalid.one_encouraged target hmem hbindable hshown a b ha hb,
          hvalid.one_site target hmem hbindable hshown a b ha hb⟩
    refine ⟨(Survey.problems_ofRun_eq_nil hgraph depth byDefault).2 horderly,
      (forall_slots_iff hgraph horderly).2 hemittable, ?_⟩
    rw [fullLedger_ofRun hgraph horderly hemittable,
      settle_ledger_eq_nil_iff hgraph horderly.marksRead]
    exact fun module hmem ↦ ⟨hvalid.imports_known module hmem, hvalid.calls_asked module hmem⟩

end Graph

/-- **A run has a plan exactly if its graph is valid.** -/
theorem Run.exists_plan_iff {graph : Graph} (h : graph.Built) (depth : Nat) (byDefault : Bool) :
    (∃ plan, (Run.ofGraph graph depth byDefault).plan = .ok plan) ↔ graph.Valid depth := by
  exact Plan.exists_ofSurvey_eq_ok.trans (Graph.clean_iff_valid h.wellFormed)

/-- The sample is valid: it has a plan. -/
theorem Document.sampleGraph_valid : sampleGraph.Valid 64 :=
  (Run.exists_plan_iff sampleGraph_built 64 false).1 ⟨_, rfl⟩

end Exposure
