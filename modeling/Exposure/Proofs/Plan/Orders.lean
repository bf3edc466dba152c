import Exposure.Proofs.Document.Built
import Exposure.Proofs.Keyed
import Exposure.Proofs.Plan.Alike
import Exposure.Proofs.Plan.Decided

/-!
# Orders of visits

A run visits in traversal order. What if it did not? Whether there is a plan is no matter of the
order, and where two orders lead to a plan each, the plans differ by ties only
(`Plan.visit_order_decides_ties`).

What the visits gather comes in pieces that a visit adds on its own. Problems there are or there are
not; records and notes of another order are a permutation (`Survey.ledger_ofVisits`,
`Survey.slots_ofVisits`), so the slots are alike (`Survey.perm_map_slots`), and whatever is no
matter of the order of requests comes out the same; and the targets behind aliases are kept under
keys (`Survey.aliasTargets_ofVisits`).
-/

namespace Exposure

/-- All there is to visit in a graph, in the order of loading. -/
def Graph.stops (graph : Graph) : List Visit :=
  graph.modules.map .scope ++ graph.declarations.map .member

/-- The survey of visits in the order given. -/
def Survey.ofVisits (run : Run) (visits : List Visit) : Survey :=
  visits.foldl (Survey.make run) .empty

/-- The traversal order is one of the orders in which all there is to visit can be visited. -/
theorem Graph.WellFormed.visits_perm {graph : Graph} (hgraph : graph.WellFormed) :
    graph.visits.Perm graph.stops := by
  have hvisits := List.map_append_flatMap_perm graph.modules Visit.scope fun module ↦
    (graph.members module.id).map Visit.member
  rw [← List.map_flatMap] at hvisits
  exact hvisits.symm.trans ((hgraph.traversal_perm.map _).append_left _)

/-! ### The targets behind aliases -/

/-- What a visit writes down about the target behind an alias. -/
def Visit.leadsTo? (run : Run) : Visit → Option (DeclId × DeclId)
  | scope _ => none
  | member declaration =>
    if declaration.isAlias then
      match run.extraction.store.get? declaration.id, run.chains.get? declaration.id with
      | some annotations, some (.ok chain) =>
        if annotations.standing ≠ .conflict ∧ chain.target.kind.isBindable then
          some (declaration.id, chain.target.id)
        else none
      | _, _ => none
    else none

/-- What the visit of a declaration writes down, it writes down under its identity. -/
theorem Visit.id_of_leadsTo? {run : Run} {declaration : Declaration} {pair : DeclId × DeclId}
    (h : (Visit.member declaration).leadsTo? run = some pair) : declaration.id = pair.1 := by
  rw [leadsTo?] at h
  split at h
  · split at h
    · split at h
      · cases h
        rfl
      · cases h
    · cases h
  · cases h

namespace Survey

@[simp]
theorem aliasTargets_reportKnown (survey : Survey) (run : Run) (declaration : Declaration) :
    (survey.reportKnown run declaration).aliasTargets = survey.aliasTargets := by
  unfold reportKnown reportChain
  dsimp only
  split
  · split <;> rfl
  · rfl

@[simp]
theorem aliasTargets_visitBinding (survey : Survey) (run : Run) (declaration : Declaration)
    (annotations : Annotations) (target : Declaration) :
    (survey.visitBinding run declaration annotations target).aliasTargets =
      survey.aliasTargets.insert declaration.id target.id := by
  unfold visitBinding
  dsimp only
  split
  · rfl
  · split
    · rfl
    · split <;> rfl

/-- **A visit writes down at most one target.** -/
theorem aliasTargets_make (run : Run) (survey : Survey) (visit : Visit) :
    (survey.make run visit).aliasTargets =
      (visit.leadsTo? run).elim survey.aliasTargets fun pair ↦
        survey.aliasTargets.insert pair.1 pair.2 := by
  cases visit with
  | scope module =>
    rw [make, visitModule]
    split
    · rfl
    · dsimp only
      split <;> rfl
  | member declaration =>
    rw [make, visit, Visit.leadsTo?, Declaration.isAlias]
    rcases run.extraction.store.get? declaration.id with - | annotations
    · cases declaration.kind <;> simp
    · cases declaration.kind with
      -- Only the visit of an alias writes anything down, and only where it leads to what can be
      -- bound.
      | typeAlias =>
        dsimp only
        rw [visitAlias]
        by_cases hconflict : annotations.standing = .conflict
        · rcases run.chains.get? declaration.id with - | ⟨problem | chain⟩ <;>
            simp [hconflict, report]
        · rcases run.chains.get? declaration.id with - | ⟨problem | chain⟩
          · simp [hconflict]
          · simp [hconflict]
          · by_cases hbindable : chain.target.kind.isBindable <;> simp [hconflict, hbindable]
      | scope =>
        simp only [visitScope]
        split_ifs <;> simp_all [report, recordScope]
      | record | function | enumeration =>
        simp only [visitBindable]
        split <;> (try split_ifs) <;> simp_all [report, recordScope, expose]

/-- The targets of a pass are those that its visits write down, one after the other. -/
theorem aliasTargets_ofVisits (run : Run) (visits : List Visit) :
    (ofVisits run visits).aliasTargets =
      (visits.filterMap (Visit.leadsTo? run)).foldl
        (fun keyed pair ↦ keyed.insert pair.1 pair.2) .empty := by
  induction visits using List.reverseRecOn with
  | nil => rfl
  | append_singleton visits visit ih =>
    rw [ofVisits, List.foldl_append, List.foldl_cons, List.foldl_nil, ← ofVisits,
      aliasTargets_make, ih, List.filterMap_append, List.foldl_append]
    cases hvisit : visit.leadsTo? run <;> simp [hvisit]

end Survey

/-! ### What is recorded -/

/-- What the verdicts on the slots of a survey record are relocations and references. -/
theorem Survey.of_mem_records_verdicts {graph : Graph} {survey : Survey} {record : Import.Record}
    (h : record ∈ (survey.verdicts graph).flatMap (·.records)) :
    (∃ relocation, record = .relocation relocation) ∨
      ∃ module emittedIn via, record = .reference module emittedIn via := by
  rw [verdicts, List.flatMap_map] at h
  obtain ⟨slot, -, hrecord⟩ := List.mem_flatMap.1 h
  exact Slot.of_mem_records_verdict hrecord

/-- A visit moves nothing. -/
theorem Visit.relocations_records (run : Run) (visit : Visit) :
    Import.Ledger.relocations (visit.records run) = [] := by
  have hlevel (module : ModuleId) (owner : String) (annotations? : Option Annotations) :
      Import.Ledger.relocations (annotations?.elim [] (·.records module owner)) = [] := by
    refine List.filterMap_eq_nil_iff.2 fun record hrecord ↦ ?_
    rcases annotations? with - | annotations
    · cases hrecord
    · rcases Annotations.mem_records.1 hrecord with ⟨_, -, rfl⟩ | ⟨_, -, rfl⟩ <;> rfl
  cases visit with
  | scope module => exact hlevel ..
  | member declaration =>
    rw [records]
    split
    · rfl
    · exact hlevel ..

/-! ### Two orders -/

namespace Survey

variable {graph : Graph} {depth : Nat} {byDefault : Bool} {visits others : List Visit}

theorem ledger_ofVisits (run : Run) (visits : List Visit) :
    (ofVisits run visits).ledger = visits.flatMap (·.records run) :=
  ledger_foldl_make run .empty visits

/-- The visits in any order are to the modules and declarations of the graph. -/
theorem within_of_perm (hvisits : visits.Perm graph.stops) :
    ∀ visit ∈ visits, visit.Within graph := by
  intro visit hvisit
  rw [hvisits.mem_iff, Graph.stops, List.mem_append, List.mem_map, List.mem_map] at hvisit
  rcases hvisit with ⟨module, hmodule, rfl⟩ | ⟨declaration, hmem, rfl⟩
  · exact hmodule
  · exact hmem

/-- What the modules ask for in a full ledger is what the visits write down. -/
theorem requested_fullLedger (run : Run) (visits : List Visit) (module : ModuleId) :
    ((ofVisits run visits).fullLedger graph).requested module =
      Import.Ledger.requested (visits.flatMap (·.records run)) module := by
  have hverdicts : Import.Ledger.requested
      (((ofVisits run visits).verdicts graph).flatMap (·.records)) module = [] := by
    refine List.filterMap_eq_nil_iff.2 fun record hrecord ↦ ?_
    rcases of_mem_records_verdicts hrecord with ⟨_, rfl⟩ | ⟨_, _, _, rfl⟩ <;> rfl
  rw [fullLedger, Import.Ledger.requested_append, hverdicts, List.append_nil, ledger_ofVisits]

/-- The hand-written code in a full ledger is what the visits write down. -/
theorem manualBlocks_fullLedger (run : Run) (visits : List Visit) (module : ModuleId) :
    ((ofVisits run visits).fullLedger graph).manualBlocks module =
      Import.Ledger.manualBlocks (visits.flatMap (·.records run)) module := by
  have hverdicts : Import.Ledger.manualBlocks
      (((ofVisits run visits).verdicts graph).flatMap (·.records)) module = [] := by
    refine List.filterMap_eq_nil_iff.2 fun record hrecord ↦ ?_
    rcases of_mem_records_verdicts hrecord with ⟨_, rfl⟩ | ⟨_, _, _, rfl⟩ <;> rfl
  rw [fullLedger, Import.Ledger.manualBlocks_append, hverdicts, List.append_nil, ledger_ofVisits]

/-- What a full ledger moves is what the verdicts do. -/
theorem moves_fullLedger (run : Run) (visits : List Visit) :
    ((ofVisits run visits).fullLedger graph).relocations.map (·.move) =
      ((ofVisits run visits).slots.map fun slot ↦
        (Import.Ledger.relocations (slot.verdict graph).records).map (·.move)).flatten := by
  have hvisits : Import.Ledger.relocations (visits.flatMap (·.records run)) = [] := by
    refine List.filterMap_eq_nil_iff.2 fun record hrecord ↦ ?_
    obtain ⟨visit, -, hrecord⟩ := List.mem_flatMap.1 hrecord
    exact List.filterMap_eq_nil_iff.1 (visit.relocations_records run) record hrecord
  rw [fullLedger, Import.Ledger.relocations_append, ledger_ofVisits, hvisits, List.nil_append,
    verdicts, List.flatMap_map, Import.Ledger.relocations, List.filterMap_flatMap,
    List.map_flatMap, List.flatMap_def]
  rfl

section Perm

variable (hperm : visits.Perm others)
include hperm

/-- What modules ask for is a permutation. -/
theorem requested_perm (graph : Graph) (run : Run) (module : ModuleId) :
    (((ofVisits run visits).fullLedger graph).requested module).Perm
      (((ofVisits run others).fullLedger graph).requested module) := by
  rw [requested_fullLedger, requested_fullLedger]
  exact (hperm.flatMap_right _).filterMap _

/-- The hand-written code of a module is a permutation. -/
theorem manualBlocks_perm (graph : Graph) (run : Run) (module : ModuleId) :
    (((ofVisits run visits).fullLedger graph).manualBlocks module).Perm
      (((ofVisits run others).fullLedger graph).manualBlocks module) := by
  rw [manualBlocks_fullLedger, manualBlocks_fullLedger]
  exact (hperm.flatMap_right _).filterMap _

/-- Whether a ledger is a problem is no matter of the order. -/
theorem settle_fullLedger_eq_nil (run : Run)
    (h : (Import.Ledger.settle graph ((ofVisits run visits).fullLedger graph)).problems = []) :
    (Import.Ledger.settle graph ((ofVisits run others).fullLedger graph)).problems = [] := by
  refine List.flatMap_eq_nil_iff.2 fun module hmodule ↦ ?_
  have hmodule := List.flatMap_eq_nil_iff.1 h module hmodule
  have hrequested := requested_perm hperm graph run module.id
  have hblocks := manualBlocks_perm hperm graph run module.id
  rw [List.append_eq_nil_iff, Import.Ledger.danglingImports_eq_nil,
    Import.Ledger.missingImports_eq_nil] at hmodule ⊢
  exact ⟨fun name hname ↦ hmodule.1 name (hrequested.mem_iff.2 hname),
    fun block hblock called hcalled hother hcontains ↦ hrequested.mem_iff.1
      (hmodule.2 block (hblocks.mem_iff.2 hblock) called hcalled hother hcontains)⟩

end Perm

section Orders

variable (hgraph : graph.WellFormed) (hvisits : visits.Perm graph.stops)
include hgraph hvisits

/-- **The visits come to no problem exactly if the graph is orderly**, in whatever order. -/
theorem problems_ofVisits_eq_nil :
    (ofVisits (Run.ofGraph graph depth byDefault) visits).problems = [] ↔
      graph.Orderly depth := by
  rw [← problems_ofRun_eq_nil hgraph depth byDefault, ofRun_eq, Run.graph_ofGraph, ofVisits,
    problems_foldl_make_eq_nil hgraph depth byDefault (within_of_perm hvisits),
    problems_foldl_make_eq_nil hgraph depth byDefault (within_of_perm hgraph.visits_perm)]
  have hsame := hvisits.trans hgraph.visits_perm.symm
  exact and_congr_right fun _ ↦ forall_congr' fun visit ↦ by rw [hsame.mem_iff]

/-- The notes of visits are those of the graph. -/
theorem notes_perm (depth : Nat) (byDefault : Bool) :
    (visits.flatMap (Visit.notes graph depth byDefault)).Perm (graph.notes depth byDefault) := by
  rw [← Graph.flatMap_notes_visits]
  exact (hvisits.trans hgraph.visits_perm.symm).flatMap_right _

/-- **The slots of visits** are their notes gathered by target. -/
theorem slots_ofVisits (horderly : graph.Orderly depth) :
    (ofVisits (Run.ofGraph graph depth byDefault) visits).slots =
      (((visits.flatMap (Visit.notes graph depth byDefault)).map (·.target)).eraseDups).map
        (Slot.gathered (Run.ofGraph graph depth byDefault)
          (visits.flatMap (Visit.notes graph depth byDefault))) := by
  have hnotes := notes_perm hgraph hvisits depth byDefault
  rw [ofVisits, slots_foldl_make hgraph horderly (within_of_perm hvisits)]
  exact foldl_into _ fun a ha b hb hid ↦ hgraph.declaration_unique
    (Graph.target_of_mem_notes hgraph (hnotes.mem_iff.1 ha)).1
    (Graph.target_of_mem_notes hgraph (hnotes.mem_iff.1 hb)).1 hid

/-- A slot of visits is for a bindable declaration of the graph. -/
theorem target_of_mem_slots (horderly : graph.Orderly depth) {slot : Slot}
    (hslot : slot ∈ (ofVisits (Run.ofGraph graph depth byDefault) visits).slots) :
    slot.target ∈ graph.declarations ∧ slot.target.kind.isBindable ∧
      slot = Slot.gathered (Run.ofGraph graph depth byDefault)
        (visits.flatMap (Visit.notes graph depth byDefault)) slot.target := by
  rw [slots_ofVisits hgraph hvisits horderly] at hslot
  obtain ⟨target, htarget, rfl⟩ := List.mem_map.1 hslot
  obtain ⟨note, hnote, rfl⟩ := List.mem_map.1 (List.mem_eraseDups.1 htarget)
  have hnotes := notes_perm hgraph hvisits depth byDefault
  obtain ⟨hmem, hbindable⟩ := Graph.target_of_mem_notes hgraph (hnotes.mem_iff.1 hnote)
  exact ⟨hmem, hbindable, rfl⟩

/-- What visits keep under a key is what the visit of one declaration writes down. -/
theorem get?_aliasTargets_eq_some {run : Run} {id target : DeclId} :
    (ofVisits run visits).aliasTargets.get? id = some target ↔
      ∃ declaration ∈ graph.declarations,
        (Visit.member declaration).leadsTo? run = some (id, target) := by
  have hmember {pair : DeclId × DeclId} :
      pair ∈ visits.filterMap (Visit.leadsTo? run) ↔ ∃ declaration ∈ graph.declarations,
        (Visit.member declaration).leadsTo? run = some pair := by
    rw [List.mem_filterMap]
    constructor
    · rintro ⟨visit, hvisit, hpair⟩
      have hwithin := within_of_perm hvisits visit hvisit
      cases visit with
      | scope module => cases hpair
      | member declaration => exact ⟨declaration, hwithin, hpair⟩
    · rintro ⟨declaration, hmem, hpair⟩
      refine ⟨.member declaration, hvisits.mem_iff.2 ?_, hpair⟩
      exact List.mem_append_right _ (List.mem_map_of_mem hmem)
  -- A key is the identity of the declaration that is visited.
  have hone : ∀ a ∈ visits.filterMap (Visit.leadsTo? run),
      ∀ b ∈ visits.filterMap (Visit.leadsTo? run), a.1 = b.1 → a.2 = b.2 := by
    intro a ha b hb hab
    obtain ⟨declaration, hmem, ha⟩ := hmember.1 ha
    obtain ⟨other, hother, hb⟩ := hmember.1 hb
    have hid := (Visit.id_of_leadsTo? ha).trans (hab.trans (Visit.id_of_leadsTo? hb).symm)
    rw [hgraph.declaration_unique hmem hother hid, hb] at ha
    rw [Option.some.inj ha]
  rw [aliasTargets_ofVisits, Keyed.get?_foldl_insert hone, hmember]

end Orders

/-- What is gathered from notes in two orders is alike. -/
theorem alike_gathered (run : Run) {notes notes' : List Note} (h : notes.Perm notes')
    (target : Declaration) :
    (Slot.gathered run notes target).Alike (Slot.gathered run notes' target) :=
  ⟨rfl, h.any_eq, rfl, h.filterMap _⟩

section TwoOrders

variable (hgraph : graph.WellFormed) (hvisits : visits.Perm graph.stops)
  (hothers : others.Perm graph.stops)
include hgraph hvisits hothers

/-- **Two orders come to slots alike**: what alike slots agree about is a permutation. -/
theorem perm_map_slots (horderly : graph.Orderly depth) {α : Type} {f : Slot → α}
    (hf : ∀ slot ∈ (ofVisits (Run.ofGraph graph depth byDefault) visits).slots, ∀ other,
      slot.Alike other → f slot = f other) :
    ((ofVisits (Run.ofGraph graph depth byDefault) visits).slots.map f).Perm
      ((ofVisits (Run.ofGraph graph depth byDefault) others).slots.map f) := by
  rw [slots_ofVisits hgraph hvisits horderly] at hf ⊢
  rw [slots_ofVisits hgraph hothers horderly, List.map_map, List.map_map]
  have hnotes := (notes_perm hgraph hvisits depth byDefault).trans
    (notes_perm hgraph hothers depth byDefault).symm
  have htargets := perm_eraseDups (hnotes.map (·.target))
  refine (htargets.map _).trans (.of_eq (List.map_congr_left fun target htarget ↦ ?_))
  exact hf _ (List.mem_map_of_mem (htargets.mem_iff.2 htarget)) _ (alike_gathered _ hnotes target)

/-- Slots of two orders for the same declaration are alike. -/
theorem alike_of_target_eq (horderly : graph.Orderly depth) {slot other : Slot}
    (hslot : slot ∈ (ofVisits (Run.ofGraph graph depth byDefault) visits).slots)
    (hother : other ∈ (ofVisits (Run.ofGraph graph depth byDefault) others).slots)
    (hids : slot.target.id = other.target.id) : slot.Alike other := by
  obtain ⟨hmem, -, hgathered⟩ := target_of_mem_slots hgraph hvisits horderly hslot
  obtain ⟨hmem', -, hgathered'⟩ := target_of_mem_slots hgraph hothers horderly hother
  rw [hgathered, hgathered', hgraph.declaration_unique hmem hmem' hids]
  exact alike_gathered _ ((notes_perm hgraph hvisits depth byDefault).trans
    (notes_perm hgraph hothers depth byDefault).symm) _

/-- **Whether anything is wrong is no matter of the order.** -/
theorem clean_of_clean
    (hclean : (ofVisits (Run.ofGraph graph depth byDefault) visits).Clean graph) :
    (ofVisits (Run.ofGraph graph depth byDefault) others).Clean graph := by
  have horderly := (problems_ofVisits_eq_nil hgraph hvisits).1 hclean.visits
  refine ⟨(problems_ofVisits_eq_nil hgraph hothers).2 horderly, fun other hother ↦ ?_,
    settle_fullLedger_eq_nil (hvisits.trans hothers.symm) _ hclean.ledger⟩
  -- Each slot of the one order is alike to a slot of the other.
  have htargets :
      ((ofVisits (Run.ofGraph graph depth byDefault) visits).slots.map (·.target.id)).Perm
        ((ofVisits (Run.ofGraph graph depth byDefault) others).slots.map (·.target.id)) :=
    perm_map_slots hgraph hvisits hothers horderly fun slot _ other h ↦ congrArg _ h.target
  obtain ⟨slot, hslot, hids⟩ :=
    List.mem_map.1 (htargets.mem_iff.2 (List.mem_map_of_mem hother))
  exact (alike_of_target_eq hgraph hvisits hothers horderly hslot hother hids
    ).problem?_verdict_eq_none.1 (hclean.slots slot hslot)

/-- The targets behind aliases are no matter of the order. -/
theorem get?_aliasTargets (run : Run) (id : DeclId) :
    (ofVisits run visits).aliasTargets.get? id = (ofVisits run others).aliasTargets.get? id := by
  ext target
  rw [get?_aliasTargets_eq_some hgraph hvisits, get?_aliasTargets_eq_some hgraph hothers]

end TwoOrders
end Survey

/-! ### Two plans -/

namespace Plan

variable {graph : Graph} {depth : Nat} {byDefault : Bool} {visits others : List Visit}
  {plan plan' : Plan}

/-- An entry comes from a slot. -/
theorem exists_slot_of_mem_entries {survey : Survey} (h : ofSurvey graph survey = .ok plan)
    {entry : PlanEntry} (hentry : entry ∈ plan.entries) :
    ∃ slot ∈ survey.slots, (slot.verdict graph).planned? = some entry := by
  rw [(comesTo_of_ofSurvey h).entries, Survey.verdicts, List.filterMap_map] at hentry
  exact List.mem_filterMap.1 hentry

/-- Whether a declaration has an entry of its own can be told from what the entries are for. -/
theorem map_canonical_entryOf? (plan : Plan) (id : DeclId) :
    (plan.entryOf? id).map (·.canonical) =
      if id ∈ plan.entries.map (·.canonical) then some id else none := by
  rw [entryOf?]
  rcases hfind : plan.entries.find? (·.canonical = id) with - | entry
  · rw [hfind, if_neg]
    · rfl
    · intro hmem
      obtain ⟨entry, hentry, hid⟩ := List.mem_map.1 hmem
      exact List.find?_eq_none.1 hfind entry hentry (decide_eq_true hid)
  · have hid : entry.canonical = id := by simpa using List.find?_some hfind
    rw [hfind, if_pos (List.mem_map.2 ⟨entry, List.mem_of_find?_eq_some hfind, hid⟩),
      Option.map_some, hid]

/-- What a declaration comes to can be told from what the entries are for and from the targets
behind aliases. -/
theorem map_canonical_lookup_congr
    (hentries : (plan.entries.map (·.canonical)).Perm (plan'.entries.map (·.canonical)))
    (htargets : ∀ id, plan.aliasTargets.get? id = plan'.aliasTargets.get? id) (id : DeclId) :
    (plan.lookup id).map (·.canonical) = (plan'.lookup id).map (·.canonical) := by
  have hentry (id : DeclId) :
      (plan.entryOf? id).map (·.canonical) = (plan'.entryOf? id).map (·.canonical) := by
    rw [map_canonical_entryOf?, map_canonical_entryOf?]
    exact if_congr hentries.mem_iff rfl rfl
  rw [lookup, lookup, Option.map_or, Option.map_or, hentry, htargets]
  cases plan'.aliasTargets.get? id with
  | none => rfl
  | some target => rw [Option.bind_some, Option.bind_some, hentry]

section TwoOrders

variable (hgraph : graph.WellFormed) (hvisits : visits.Perm graph.stops)
  (hothers : others.Perm graph.stops)
  (hplan : ofSurvey graph (.ofVisits (Run.ofGraph graph depth byDefault) visits) = .ok plan)
  (hplan' : ofSurvey graph (.ofVisits (Run.ofGraph graph depth byDefault) others) = .ok plan')
include hgraph hvisits hothers hplan hplan'

/-- What is emitted and where is no matter of the order of visits. -/
theorem placements_perm :
    (plan.entries.map (·.placement)).Perm (plan'.entries.map (·.placement)) := by
  have hclean := exists_ofSurvey_eq_ok.1 ⟨plan, hplan⟩
  have horderly := (Survey.problems_ofVisits_eq_nil hgraph hvisits).1 hclean.visits
  have hentries (survey : Survey) :
      ((survey.verdicts graph).filterMap (·.planned?)).map (·.placement) =
        (survey.slots.map fun slot ↦
          (slot.verdict graph).planned?.map (·.placement)).filterMap id := by
    rw [Survey.verdicts, List.filterMap_map, List.map_filterMap, List.filterMap_map]
    rfl
  rw [(comesTo_of_ofSurvey hplan).entries, (comesTo_of_ofSurvey hplan').entries, hentries,
    hentries]
  refine (Survey.perm_map_slots hgraph hvisits hothers horderly fun slot hslot other h ↦ ?_
    ).filterMap _
  exact h.placement_verdict (hclean.slots slot hslot)

/-- What is moved and where to is no matter of the order of visits. -/
theorem moves_perm :
    (plan.relocations.map (·.move)).Perm (plan'.relocations.map (·.move)) := by
  have hclean := exists_ofSurvey_eq_ok.1 ⟨plan, hplan⟩
  have horderly := (Survey.problems_ofVisits_eq_nil hgraph hvisits).1 hclean.visits
  rw [(comesTo_of_ofSurvey hplan).relocations, (comesTo_of_ofSurvey hplan').relocations,
    Survey.moves_fullLedger, Survey.moves_fullLedger]
  refine (Survey.perm_map_slots hgraph hvisits hothers horderly fun slot hslot other h ↦ ?_
    ).flatten
  exact h.moves_verdict (hclean.slots slot hslot)

/-- **A name that is not a matter of ties is no matter of the order of visits.** -/
theorem externalName_eq {entry entry' : PlanEntry} (hentry : entry ∈ plan.entries)
    (hentry' : entry' ∈ plan'.entries) (hcanonical : entry.canonical = entry'.canonical)
    (hsteady : entry.namedBy = none ∨
      ∃ asking ∈ graph.declarations, asking.isAlias ∧ asking.carries .encourage ∧
        ∃ target, graph.target? depth asking = some target ∧ target.id = entry.canonical) :
    entry.externalName = entry'.externalName := by
  have hclean := exists_ofSurvey_eq_ok.1 ⟨plan, hplan⟩
  have hclean' := exists_ofSurvey_eq_ok.1 ⟨plan', hplan'⟩
  have horderly := (Survey.problems_ofVisits_eq_nil hgraph hvisits).1 hclean.visits
  obtain ⟨slot, hslot, hplanned⟩ := exists_slot_of_mem_entries hplan hentry
  obtain ⟨other, hother, hplanned'⟩ := exists_slot_of_mem_entries hplan' hentry'
  obtain ⟨hagrees, htarget, choice, hchoice, hname, hnamedBy⟩ :=
    Slot.of_planned?_verdict hplanned (hclean.slots slot hslot)
  obtain ⟨-, htarget', choice', hchoice', hname', -⟩ :=
    Slot.of_planned?_verdict hplanned' (hclean'.slots other hother)
  have halike := Survey.alike_of_target_eq hgraph hvisits hothers horderly hslot hother
    (htarget.symm.trans (hcanonical.trans htarget'))
  have hsame : other.choice? = some choice := by
    refine halike.choice?_eq hagrees hchoice ?_
    rcases hsteady with hnone | ⟨asking, hmem, halias, hencourage, target, hleads, hid⟩
    · exact .inr (Alias.NameSource.aliasId?_eq_none.1 (hnamedBy.symm.trans hnone))
    · -- The encouraged alias is visited at some point, and its request is noted.
      left
      obtain ⟨hdeclared, hbindable, hgathered⟩ :=
        Survey.target_of_mem_slots hgraph hvisits horderly hslot
      obtain rfl : target = slot.target :=
        hgraph.declaration_unique (Graph.target?_mem hmem hleads) hdeclared (hid.trans htarget)
      have hshown : ¬ asking.carries .hidden := fun hhidden ↦
        (horderly.declarations asking hmem).agrees
          (Marks.conflict_iff.2 ⟨hhidden, .inr (.inl hencourage)⟩)
      have hasks : asking.asksExposure := Marks.askExposure_iff.2 (.inr (.inl hencourage))
      have hrequests : graph.requests depth byDefault asking slot.target :=
        Graph.requests_iff.2 ⟨halias, hleads, hshown, .inl hasks⟩
      have hnote : Note.asked slot.target (graph.request byDefault asking) ∈
          visits.flatMap (Visit.notes graph depth byDefault) := by
        refine (Survey.notes_perm hgraph hvisits depth byDefault).mem_iff.2
          (List.mem_filterMap.2 ⟨asking, hgraph.mem_traversal.2 hmem, ?_⟩)
        exact Graph.note?_eq_some.2 (.inr ⟨_, hbindable, hrequests, rfl⟩)
      refine ⟨graph.request byDefault asking, ?_, hencourage⟩
      rw [hgathered]
      exact List.mem_filterMap.2 ⟨_, hnote, if_pos rfl⟩
  rw [hchoice'] at hsame
  rw [hname, hname', Option.some.inj hsame]

/-- Modules ask for the same modules and hold the same code in whatever order they are visited. -/
theorem modules_forall₂ :
    List.Forall₂ (fun module module' ↦ module.id = module'.id ∧ module.name = module'.name ∧
      (∀ id, ⟨id, .explicit⟩ ∈ module.imports ↔ ⟨id, .explicit⟩ ∈ module'.imports) ∧
        module.manualBlocks.Perm module'.manualBlocks) plan.modules plan'.modules := by
  have hperm := hvisits.trans hothers.symm
  rw [(comesTo_of_ofSurvey hplan).modules, (comesTo_of_ofSurvey hplan').modules,
    List.forall₂_map_left_iff, List.forall₂_map_right_iff, List.forall₂_same]
  refine fun module _ ↦ ⟨rfl, rfl, fun id ↦ ?_, Survey.manualBlocks_perm hperm _ _ _⟩
  have hrequested := Survey.requested_perm hperm graph
    (Run.ofGraph graph depth byDefault) module.id
  simp only [Import.Ledger.explicit_mem_importList, Import.Ledger.mem_requestedModules hgraph,
    hrequested.mem_iff]

end TwoOrders

/-- **Visit order decides only ties.** Whether there is a plan is no matter of the order in which
all modules and declarations are visited. Plans of two orders emit the same declarations in the same
modules, under the same names where somebody is encouraged to name or nobody but the declaration
itself does; they move the same to the same places, come to the same declaration for every identity,
and have for every module the same explicit imports and the same hand-written code. -/
theorem visit_order_decides_ties {graph : Graph} (h : graph.Built) (depth : Nat)
    (byDefault : Bool) {visits others : List Visit} (hvisits : visits.Perm graph.stops)
    (hothers : others.Perm graph.stops) :
    let first := ofSurvey graph (.ofVisits (Run.ofGraph graph depth byDefault) visits)
    let second := ofSurvey graph (.ofVisits (Run.ofGraph graph depth byDefault) others)
    ((∃ plan, first = .ok plan) ↔ ∃ plan, second = .ok plan) ∧
      ∀ plan plan', first = .ok plan → second = .ok plan' →
        (plan.entries.map (·.placement)).Perm (plan'.entries.map (·.placement)) ∧
        (∀ entry ∈ plan.entries, ∀ entry' ∈ plan'.entries, entry.canonical = entry'.canonical →
          (entry.namedBy = none ∨
            ∃ asking ∈ graph.declarations, asking.isAlias ∧ asking.carries .encourage ∧
              ∃ target, graph.target? depth asking = some target ∧
                target.id = entry.canonical) →
            entry.externalName = entry'.externalName) ∧
        (plan.relocations.map (·.move)).Perm (plan'.relocations.map (·.move)) ∧
        (∀ id, (plan.lookup id).map (·.canonical) = (plan'.lookup id).map (·.canonical)) ∧
        List.Forall₂ (fun module module' ↦ module.id = module'.id ∧ module.name = module'.name ∧
          (∀ id, ⟨id, .explicit⟩ ∈ module.imports ↔ ⟨id, .explicit⟩ ∈ module'.imports) ∧
            module.manualBlocks.Perm module'.manualBlocks) plan.modules plan'.modules := by
  have hgraph := h.wellFormed
  refine ⟨?_, fun plan plan' hplan hplan' ↦ ?_⟩
  · rw [exists_ofSurvey_eq_ok, exists_ofSurvey_eq_ok]
    exact ⟨Survey.clean_of_clean hgraph hvisits hothers,
      Survey.clean_of_clean hgraph hothers hvisits⟩
  · -- Entries agree up to order, and the targets that were written down do; so look-ups come to the
    -- same.
    have hplacements := placements_perm hgraph hvisits hothers hplan hplan'
    have hcanonical : (plan.entries.map (·.canonical)).Perm (plan'.entries.map (·.canonical)) := by
      have hmap := hplacements.map (·.canonical)
      rwa [List.map_map, List.map_map] at hmap
    refine ⟨hplacements, fun entry hentry entry' hentry' ↦
      externalName_eq hgraph hvisits hothers hplan hplan' hentry hentry',
      moves_perm hgraph hvisits hothers hplan hplan',
      map_canonical_lookup_congr hcanonical fun id ↦ ?_,
      modules_forall₂ hgraph hvisits hothers hplan hplan'⟩
    rw [(comesTo_of_ofSurvey hplan).aliasTargets, (comesTo_of_ofSurvey hplan').aliasTargets,
      Survey.get?_aliasTargets hgraph hvisits hothers]

end Plan

/-- The sample may be visited backwards: there is a plan then too, and the point is emitted by the
interface all the same. -/
theorem Document.sampleGraph_backwards :
    ∃ plan, Plan.ofSurvey sampleGraph
        (.ofVisits (Run.ofGraph sampleGraph 64 false) sampleGraph.stops.reverse) = .ok plan ∧
      plan.entries.map (·.placement) = [⟨⟨2⟩, .record, ⟨1⟩, ⟨2⟩, .relocated⟩] := by
  obtain ⟨hiff, hsame⟩ := Plan.visit_order_decides_ties sampleGraph_built 64 false
    (List.Perm.refl sampleGraph.stops) (List.reverse_perm sampleGraph.stops)
  obtain ⟨plan, hplan⟩ := hiff.1 ⟨_, rfl⟩
  refine ⟨plan, hplan, ?_⟩
  have hplacements := (hsame _ plan rfl hplan).1
  exact List.perm_singleton.1 hplacements.symm

end Exposure
