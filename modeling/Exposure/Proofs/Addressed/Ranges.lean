import Exposure.Proofs.Addressed.Visits
import Exposure.Proofs.Import.Lists
import Exposure.Proofs.Plan.Decided

/-!
# Ranges

Every identity that a run stores is in range, wherever it stores it: in the requests and slots that
the visits gather, in the records of the ledger, in the entries and records of the verdicts, in the
lists of imports, and in the plan.

The visits are followed step by step: each preserves that what has been gathered is in range
(`Survey.InRange.make`), and so do all of them together (`Run.Addressable.inRange_ofRun`). What is
decided of the slots and settled of the ledger stores no identity that was not gathered, but for
those of the modules of the graph (`Run.Addressable.inRange_plan`).
-/

namespace Exposure

/-! ### What is in range -/

/-- All identities of a request are in range. -/
structure Alias.Request.InRange (graph : Graph) (request : Alias.Request) : Prop where
  aliasId : request.aliasId.InRange graph
  module : request.module.InRange graph
  site : ∀ site, request.relocateTo = some site → site.InRange graph

/-- A slot of a declaration of the graph, with requests in range. -/
structure Slot.InRange (graph : Graph) (slot : Slot) : Prop where
  target : slot.target ∈ graph.declarations
  requests : ∀ request ∈ slot.requests, request.InRange graph

/-- What the visits have gathered is in range. -/
structure Survey.InRange (graph : Graph) (survey : Survey) : Prop where
  slots : ∀ slot ∈ survey.slots, slot.InRange graph
  aliasTargets : ∀ id target, survey.aliasTargets.get? id = some target →
    id.InRange graph ∧ target.InRange graph
  ledger : ∀ record ∈ survey.ledger, record.InRange graph

/-- All identities of an entry are in range. -/
structure PlanEntry.InRange (graph : Graph) (entry : PlanEntry) : Prop where
  canonical : entry.canonical.InRange graph
  homeModule : entry.homeModule.InRange graph
  emissionModule : entry.emissionModule.InRange graph
  namedBy : ∀ id, entry.namedBy = some id → id.InRange graph
  forwarded : ∀ bound ∈ entry.forwarded, bound.aliasId.InRange graph ∧ bound.module.InRange graph

/-- What a verdict brings about is in range. -/
structure Verdict.InRange (graph : Graph) (verdict : Verdict) : Prop where
  entry : ∀ entry, verdict.planned? = some entry → entry.InRange graph
  records : ∀ record ∈ verdict.records, record.InRange graph

/-- All identities of an import are in range. -/
structure Import.Entry.InRange (graph : Graph) (entry : Import.Entry) : Prop where
  module : entry.module.InRange graph
  via : ∀ via, entry.origin = .inferred via → via.InRange graph

/-- All identities of a plan are in range. -/
structure Plan.InRange (graph : Graph) (plan : Plan) : Prop where
  entries : ∀ entry ∈ plan.entries, entry.InRange graph
  aliasTargets : ∀ id target, plan.aliasTargets.get? id = some target →
    id.InRange graph ∧ target.InRange graph
  modules : ∀ module ∈ plan.modules, module.id.InRange graph ∧
    ∀ entry ∈ module.imports, entry.InRange graph
  relocations : ∀ relocation ∈ plan.relocations, relocation.InRange graph

/-! ### The visits -/

namespace Survey

variable {graph : Graph}

/-- The first visit finds nothing that could be out of range. -/
theorem inRange_empty (graph : Graph) : empty.InRange graph where
  slots := by simp [empty]
  aliasTargets := by simp [empty]
  ledger := by simp [empty]

/-- A changed slot is in range if the change keeps it there. -/
theorem inRange_changeSlot (run : Run) {target : Declaration}
    (htarget : target ∈ graph.declarations) (change : Slot → Slot)
    (hchange : ∀ slot, slot.InRange graph → (change slot).InRange graph)
    {slots : List Slot} (hslots : ∀ slot ∈ slots, slot.InRange graph) :
    ∀ slot ∈ changeSlot run target change slots, slot.InRange graph := by
  induction slots with
  | nil => exact List.forall_mem_singleton.2 (hchange _ ⟨htarget, List.forall_mem_nil _⟩)
  | cons slot rest ih =>
    obtain ⟨hslot, hrest⟩ := List.forall_mem_cons.1 hslots
    rw [changeSlot]
    split
    · exact List.forall_mem_cons.2 ⟨hchange slot hslot, hrest⟩
    · exact List.forall_mem_cons.2 ⟨hslot, ih hrest⟩

namespace InRange

variable {survey : Survey} (h : survey.InRange graph)
include h

theorem report (problems : List Problem) : (survey.report problems).InRange graph :=
  ⟨h.slots, h.aliasTargets, h.ledger⟩

theorem reportChain (problem : Problem) : (survey.reportChain problem).InRange graph := by
  unfold Survey.reportChain
  split
  · exact h
  · exact h.report _

theorem expose (run : Run) {target : Declaration} (htarget : target ∈ graph.declarations) :
    (survey.expose run target).InRange graph where
  slots := inRange_changeSlot run htarget (fun slot ↦ { slot with direct := true })
    (fun _ hslot ↦ ⟨hslot.target, hslot.requests⟩) h.slots
  aliasTargets := h.aliasTargets
  ledger := h.ledger

theorem request (run : Run) {target : Declaration} (htarget : target ∈ graph.declarations)
    {asked : Alias.Request} (hasked : asked.InRange graph) :
    (survey.request run target asked).InRange graph where
  slots := inRange_changeSlot run htarget
    (fun slot ↦ { slot with requests := slot.requests ++ [asked] })
    (fun _ hslot ↦ ⟨hslot.target,
      List.forall_mem_append.2 ⟨hslot.requests, List.forall_mem_singleton.2 hasked⟩⟩) h.slots
  aliasTargets := h.aliasTargets
  ledger := h.ledger

theorem recordScope {module : ModuleId} (hmodule : module.InRange graph) (owner : String)
    (annotations : Annotations) : (survey.recordScope module owner annotations).InRange graph where
  slots := h.slots
  aliasTargets := h.aliasTargets
  ledger := by
    rw [ledger_recordScope]
    exact List.forall_mem_append.2 ⟨h.ledger, annotations.inRange_records hmodule owner⟩

theorem insertTarget {id target : DeclId} (hid : id.InRange graph)
    (htarget : target.InRange graph) :
    InRange graph { survey with aliasTargets := survey.aliasTargets.insert id target } where
  slots := h.slots
  aliasTargets := by
    intro other found hfound
    rw [Keyed.get?_insert] at hfound
    split at hfound
    · rename_i heq
      exact Option.some.inj hfound ▸ heq ▸ ⟨hid, htarget⟩
    · exact h.aliasTargets other found hfound
  ledger := h.ledger

theorem visitScope (hgraph : graph.WellFormed) {declaration : Declaration}
    (hmem : declaration ∈ graph.declarations) (annotations : Annotations) :
    (survey.visitScope declaration annotations).InRange graph := by
  have howner := hgraph.inRange_owner hmem
  unfold Survey.visitScope
  dsimp only
  split
  · exact (h.report _).recordScope howner _ _
  · exact h.recordScope howner _ _

theorem reportKnown (run : Run) (declaration : Declaration) :
    (survey.reportKnown run declaration).InRange graph := by
  unfold Survey.reportKnown
  dsimp only
  split
  · exact (h.report _).reportChain _
  · exact h.report _

theorem visitBindable (hgraph : graph.WellFormed) (run : Run) {declaration : Declaration}
    (hmem : declaration ∈ graph.declarations) (annotations : Annotations) :
    (survey.visitBindable run declaration annotations).InRange graph := by
  have hrecorded := h.recordScope (hgraph.inRange_owner hmem) declaration.name annotations
  unfold Survey.visitBindable
  dsimp only
  split
  · exact hrecorded.expose run hmem
  · exact hrecorded
  · split
    · exact hrecorded.expose run hmem
    · exact hrecorded
  · exact hrecorded.report _

end InRange
end Survey

namespace Run.Addressable

variable {run : Run} (h : run.Addressable) {survey : Survey} (hsurvey : survey.InRange run.graph)
include h

/-- An emission site is the module of the alias or one that is found by name. -/
theorem inRange_emissionSite {declaration : Declaration}
    (hmem : declaration ∈ run.graph.declarations) {annotations : Annotations}
    {site : Option ModuleId} (hsite : Survey.emissionSite run declaration annotations = .ok site)
    {id : ModuleId} (hid : site = some id) : id.InRange run.graph := by
  have hgraph := h.built.wellFormed
  unfold Survey.emissionSite at hsite
  split at hsite
  · cases hsite
    cases hid
  · cases hsite
    cases hid
    exact hgraph.inRange_owner hmem
  · split at hsite
    · rename_i module hmodule
      cases hsite
      cases hid
      exact hgraph.inRange_module (hgraph.moduleNamed_eq_some.1 hmodule).1
    · cases hsite

include hsurvey

theorem inRange_visitBinding {declaration target : Declaration}
    (hmem : declaration ∈ run.graph.declarations) (htarget : target ∈ run.graph.declarations)
    (annotations : Annotations) :
    (survey.visitBinding run declaration annotations target).InRange run.graph := by
  have hgraph := h.built.wellFormed
  have hinserted := hsurvey.insertTarget (hgraph.inRange hmem) (hgraph.inRange htarget)
  unfold Survey.visitBinding
  dsimp only
  split
  · exact hinserted
  · split
    · exact hinserted.report _
    · rename_i site hsite
      split
      · exact hinserted.request run htarget
          ⟨hgraph.inRange hmem, hgraph.inRange_owner hmem,
            fun id ↦ h.inRange_emissionSite hmem hsite⟩
      · exact hinserted

theorem inRange_visitAlias {declaration : Declaration}
    (hmem : declaration ∈ run.graph.declarations) (annotations : Annotations) :
    (survey.visitAlias run declaration annotations).InRange run.graph := by
  unfold Survey.visitAlias
  split
  · exact hsurvey.report _
  · split
    · rename_i chain hchain
      split
      · exact h.inRange_visitBinding hsurvey hmem (h.targets _ _ hchain) annotations
      · exact hsurvey
    · exact hsurvey

/-- **A visit keeps what has been gathered in range.** -/
theorem inRange_make {visit : Visit} (hvisit : visit.Within run.graph) :
    (survey.make run visit).InRange run.graph := by
  have hgraph := h.built.wellFormed
  cases visit with
  | scope module =>
    have hmodule := hgraph.inRange_module hvisit
    rw [Survey.make, Survey.visitModule]
    split
    · exact hsurvey.report _
    · dsimp only
      split
      · exact ((hsurvey.report _).report _).recordScope hmodule _ _
      · exact (hsurvey.report _).recordScope hmodule _ _
  | member declaration =>
    have hknown := hsurvey.reportKnown run declaration
    rw [Survey.make, Survey.visit]
    split
    · exact hknown
    · rename_i annotations _
      cases declaration.kind with
      | scope => exact hknown.visitScope hgraph hvisit annotations
      | typeAlias => exact h.inRange_visitAlias hknown hvisit annotations
      | record | function | enumeration =>
        exact hknown.visitBindable hgraph run hvisit annotations

omit hsurvey

/-- **What the visits of a run gather is in range**, by induction on the visits. -/
theorem inRange_ofRun : (Survey.ofRun run).InRange run.graph := by
  suffices hpass : ∀ visits : List Visit, (∀ visit ∈ visits, visit.Within run.graph) →
      (visits.foldl (Survey.make run) .empty).InRange run.graph by
    rw [Survey.ofRun_eq]
    exact hpass _ fun visit hvisit ↦ h.built.wellFormed.mem_visits.1 hvisit
  intro visits
  induction visits using List.reverseRecOn with
  | nil => exact fun _ ↦ Survey.inRange_empty _
  | append_singleton visits last ih =>
    intro hvisits
    obtain ⟨hearlier, hlast⟩ := List.forall_mem_append.1 hvisits
    rw [List.foldl_append, List.foldl_cons, List.foldl_nil]
    exact h.inRange_make (ih hearlier) (List.forall_mem_singleton.1 hlast)

end Run.Addressable
/-! ### The verdicts -/

/-- A verdict that brings nothing about is in range. -/
theorem Verdict.inRange_of_nothing {graph : Graph} {verdict : Verdict}
    (hentry : verdict.planned? = none) (hrecords : verdict.records = []) :
    verdict.InRange graph where
  entry := by simp [hentry]
  records := by simp [hrecords]

/-- A name that comes from an alias comes from one that asks. -/
theorem Alias.exists_request_of_chooseName {targetName targetShortName : String} {direct : Bool}
    {requests : List Alias.Request} {choice : Alias.NameChoice}
    (h : Alias.chooseName targetName targetShortName direct requests = .ok (some choice))
    {id : DeclId} (hid : choice.source.aliasId? = some id) :
    ∃ request ∈ requests, request.aliasId = id := by
  unfold Alias.chooseName at h
  split at h
  · cases h
  · rename_i request hrequest
    cases h
    have hmem : request ∈ requests := (List.mem_filter.1 (hrequest ▸ List.mem_singleton_self _)).1
    exact ⟨request, hmem, Option.some.inj hid⟩
  · split at h
    · rename_i request hrequest
      cases h
      exact ⟨request, List.mem_of_find?_eq_some hrequest, Option.some.inj hid⟩
    · split at h
      · cases h
        cases hid
      · split at h
        · rename_i request hrequest
          cases h
          exact ⟨request, List.mem_of_find?_eq_some hrequest, Option.some.inj hid⟩
        · obtain ⟨request, hrequest, rfl⟩ := Option.map_eq_some_iff.1 (Except.ok.inj h)
          exact ⟨request, List.mem_of_find?_eq_some hrequest, Option.some.inj hid⟩

namespace Slot.InRange

variable {graph : Graph} {slot : Slot} (h : slot.InRange graph)
include h

/-- The sites asked for are in range, and so are the aliases that ask. -/
theorem of_mem_sites {site : ModuleId × DeclId} (hsite : site ∈ slot.sites) :
    site.1.InRange graph ∧ site.2.InRange graph := by
  rw [sites_eq] at hsite
  obtain ⟨_, -, hfound⟩ := List.mem_filterMap.1 hsite
  obtain ⟨request, hrequest, hasks⟩ := List.mem_filterMap.1 (List.mem_of_find?_eq_some hfound)
  obtain ⟨asked, hasked, rfl⟩ := Option.map_eq_some_iff.1 hasks
  have hrange := h.requests request hrequest
  exact ⟨hrange.site asked hasked, hrange.aliasId⟩

/-- What is emitted of a slot is in range, and so are the records that follow. -/
theorem emit (hgraph : graph.WellFormed) {choice : Alias.NameChoice}
    (hchoice : ∀ id, choice.source.aliasId? = some id → id.InRange graph)
    {relocation : Option (ModuleId × DeclId)}
    (hrelocation : ∀ site ∈ relocation, site.1.InRange graph ∧ site.2.InRange graph) :
    (slot.emit choice relocation).InRange graph := by
  have htarget := hgraph.inRange h.target
  have howner := hgraph.inRange_owner h.target
  have hsite : ((relocation.map (·.1)).getD slot.target.module).InRange graph := by
    cases relocation with
    | none => exact howner
    | some site => exact (hrelocation site rfl).1
  constructor
  · rintro entry ⟨⟩
    refine ⟨htarget, howner, hsite, hchoice, fun bound hbound ↦ ?_⟩
    obtain ⟨request, hrequest, rfl⟩ := List.mem_map.1 hbound
    have hrange := h.requests request (List.mem_filter.1 hrequest).1
    exact ⟨hrange.aliasId, hrange.module⟩
  · intro record hrecord
    rcases List.mem_append.1 hrecord with hmoved | hreference
    · obtain ⟨site, hfound, rfl⟩ := Option.map_eq_some_iff.1 (Option.mem_toList.1 hmoved)
      exact ⟨htarget, howner, (hrelocation site hfound).1, (hrelocation site hfound).2⟩
    · obtain ⟨request, hrequest, rfl⟩ := List.mem_map.1 hreference
      have hrange := h.requests request (List.mem_filter.1 hrequest).1
      exact ⟨hrange.module, hsite, hrange.aliasId⟩

/-- **What a slot is decided to is in range.** -/
theorem verdict (hgraph : graph.WellFormed) : (slot.verdict graph).InRange graph := by
  unfold Slot.verdict
  split
  · exact Verdict.inRange_of_nothing rfl rfl
  · split
    · exact Verdict.inRange_of_nothing rfl rfl
    · exact Verdict.inRange_of_nothing rfl rfl
    · rename_i choice hchoice
      split
      · exact Verdict.inRange_of_nothing rfl rfl
      · refine h.emit hgraph (fun id hid ↦ ?_) fun site hsite ↦ ?_
        · obtain ⟨request, hrequest, rfl⟩ := Alias.exists_request_of_chooseName hchoice hid
          exact (h.requests request hrequest).aliasId
        · exact h.of_mem_sites (List.mem_of_head? (Option.eq_some_of_filter_eq_some hsite))

end Slot.InRange

/-! ### The ledger -/

namespace Import.Ledger

variable {graph : Graph} {ledger : Ledger}

/-- The imports of a module are in range where the records are. -/
theorem inRange_importList (hgraph : graph.WellFormed)
    (hledger : ∀ record ∈ ledger, record.InRange graph) {module : Module} :
    ∀ entry ∈ importList graph ledger module, entry.InRange graph := by
  rintro ⟨id, - | via⟩ hentry
  · obtain ⟨-, other, hother, rfl, -⟩ :=
      (mem_requestedModules hgraph).1 (explicit_mem_importList.1 hentry)
    exact ⟨hgraph.inRange_module hother, fun via hvia ↦ by cases hvia⟩
  · have hrecord := hledger _ (mem_referenced.1 (of_inferred_mem_importList hentry).2).1
    refine ⟨hrecord.2.1, fun other hother ↦ ?_⟩
    cases hother
    exact hrecord.2.2

/-- A relocation that is told of was recorded. -/
theorem mem_relocations {relocation : Relocation} :
    relocation ∈ ledger.relocations ↔ .relocation relocation ∈ ledger := by
  rw [relocations, List.mem_filterMap]
  constructor
  · rintro ⟨record, hrecord, hfound⟩
    cases record with
    | relocation => exact Option.some.inj hfound ▸ hrecord
    | request | reference | manual => cases hfound
  · exact fun h ↦ ⟨_, h, rfl⟩

end Import.Ledger

/-! ### The plan -/

namespace Run.Addressable

variable {run : Run} (h : run.Addressable)
include h

/-- The records of the visits and of the verdicts are in range. -/
theorem inRange_fullLedger :
    ∀ record ∈ (Survey.ofRun run).fullLedger run.graph, record.InRange run.graph := by
  have hsurvey := h.inRange_ofRun
  refine List.forall_mem_append.2 ⟨hsurvey.ledger, fun record hrecord ↦ ?_⟩
  obtain ⟨verdict, hverdict, hrecord⟩ := List.mem_flatMap.1 hrecord
  obtain ⟨slot, hslot, rfl⟩ := List.mem_map.1 hverdict
  exact ((hsurvey.slots slot hslot).verdict h.built.wellFormed).records record hrecord

/-- **Every identity that a plan stores is in range.** -/
theorem inRange_plan {plan : Plan} (hplan : run.plan = .ok plan) : plan.InRange run.graph := by
  have hgraph := h.built.wellFormed
  have hsurvey := h.inRange_ofRun
  have hcomes := Plan.comesTo_of_ofSurvey hplan
  refine ⟨fun entry hentry ↦ ?_, ?_, fun module hmodule ↦ ?_, fun relocation hrelocation ↦ ?_⟩
  · rw [hcomes.entries] at hentry
    obtain ⟨verdict, hverdict, hentry⟩ := List.mem_filterMap.1 hentry
    obtain ⟨slot, hslot, rfl⟩ := List.mem_map.1 hverdict
    exact ((hsurvey.slots slot hslot).verdict hgraph).entry entry hentry
  · rw [hcomes.aliasTargets]
    exact hsurvey.aliasTargets
  · rw [hcomes.modules] at hmodule
    obtain ⟨owner, howner, rfl⟩ := List.mem_map.1 hmodule
    exact ⟨hgraph.inRange_module howner,
      Import.Ledger.inRange_importList hgraph h.inRange_fullLedger⟩
  · rw [hcomes.relocations] at hrelocation
    exact h.inRange_fullLedger _ (Import.Ledger.mem_relocations.1 hrelocation)

end Run.Addressable
end Exposure
