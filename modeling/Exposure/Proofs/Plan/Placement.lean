import Exposure.Proofs.Document.Built
import Exposure.Proofs.Plan.Decided

/-!
# Where and under what name

The requesters of a target say where it is emitted and what it is called, and the two are decided
apart: those with an `expose_here` mark designate the module, and the first in the precedence of
names (`Graph.namer?`) gives the name, be it among them or not. The way of exposure follows from
the home and the emission module, and so does whether there is a relocation.

Relocations are listed in the order of the relocated entries (`Plan.Decided.forall₂_relocations`),
each with the first requester that designates the site.
-/

namespace Exposure

namespace Graph

variable {graph : Graph} {depth : Nat} {byDefault : Bool} {target : Declaration}

/-- A target is emitted where its requesters with an `expose_here` mark want it. -/
theorem site?_eq_emissionModule (hgraph : graph.WellFormed) (horderly : graph.Orderly depth)
    (hbindable : target.kind.isBindable) (hemittable : graph.Emittable depth byDefault target)
    {asking : Declaration} (hasking : asking ∈ graph.requesters depth byDefault target)
    (hcarries : asking.carries .exposeHere) :
    graph.site? asking = some (graph.emissionModule depth byDefault target) := by
  have hsome : (graph.site? asking).isSome := by
    rwa [isSome_site? (horderly.site_known hgraph hbindable hasking)]
  obtain ⟨site, hsite⟩ := Option.isSome_iff_exists.1 hsome
  rcases hfirst : (graph.requesters depth byDefault target).findSome? graph.site? with - | first
  · rw [List.findSome?_eq_none_iff] at hfirst
    rw [hfirst asking hasking] at hsite
    cases hsite
  · -- The site of the first requester with one is that of all requesters with one.
    obtain ⟨other, hother, hotherSite⟩ := List.exists_of_findSome?_eq_some hfirst
    rw [hsite, emissionModule, hfirst, Option.getD_some,
      hemittable.one_site asking hasking other hother site first hsite hotherSite]

/-- Without such a requester a target is emitted at home. -/
theorem emissionModule_eq_home
    (hnone : ∀ asking ∈ graph.requesters depth byDefault target, ¬ asking.carries .exposeHere) :
    graph.emissionModule depth byDefault target = target.module := by
  have hfirst : (graph.requesters depth byDefault target).findSome? graph.site? = none := by
    refine List.findSome?_eq_none_iff.2 fun asking hasking ↦ ?_
    rw [← Option.not_isSome_iff_eq_none]
    intro hsome
    obtain ⟨site, hsite⟩ := Option.isSome_iff_exists.1 hsome
    exact hnone asking hasking (carries_exposeHere_of_site? hsite)
  rw [emissionModule, hfirst]
  rfl

/-- An entry is relocated exactly if its target is emitted away from home. -/
theorem isRelocated_entry :
    (graph.entry depth byDefault target).isRelocated ↔
      graph.emissionModule depth byDefault target ≠ target.module := by
  rw [PlanEntry.isRelocated, decide_eq_true_iff, entry, exposure]
  split
  · rename_i haway
    exact ⟨fun _ ↦ haway, fun _ ↦ rfl⟩
  · rename_i hhome
    refine ⟨fun h ↦ ?_, fun haway ↦ absurd haway hhome⟩
    split at h <;> cases h

/-- What a relocation record says about an entry. -/
structure Moves (graph : Graph) (depth : Nat) (byDefault : Bool) (entry : PlanEntry)
    (relocation : Import.Relocation) : Prop where
  declaration : relocation.declaration = entry.canonical
  home : relocation.home = entry.homeModule
  site : relocation.site = entry.emissionModule
  /-- It is due to the first requester that designates the site. -/
  via : ∃ target ∈ graph.declarations, target.id = entry.canonical ∧
    ((graph.requesters depth byDefault target).find?
      (graph.site? · = some entry.emissionModule)).map (·.id) = some relocation.via

/-- The relocations of targets are those of their relocated entries, in order. The induction goes
through the targets: each has a record exactly if its entry is relocated. -/
theorem forall₂_moves {targets : List Declaration} (htargets : targets ⊆ graph.declarations) :
    List.Forall₂ (graph.Moves depth byDefault)
      ((targets.map (graph.entry depth byDefault)).filter (·.isRelocated))
      (targets.filterMap (graph.relocation? depth byDefault)) := by
  induction targets with
  | nil => exact .nil
  | cons target rest ih =>
    obtain ⟨hmem, hrest⟩ := List.cons_subset.1 htargets
    rw [List.map_cons, List.filter_cons, List.filterMap_cons]
    rcases hrelocation : graph.relocation? depth byDefault target with - | relocation
    · have hhome : ¬ (graph.entry depth byDefault target).isRelocated := by
        rw [isRelocated_entry, ← isSome_relocation?, hrelocation]
        simp
      rw [if_neg hhome]
      exact ih hrest
    · obtain ⟨haway, via, hvia, rfl⟩ := relocation?_eq_some.1 hrelocation
      rw [if_pos (isRelocated_entry.2 haway)]
      refine .cons ⟨rfl, rfl, rfl, target, hmem, rfl, ?_⟩ (ih hrest)
      show ((graph.requesters depth byDefault target).find?
        (graph.site? · = some (graph.emissionModule depth byDefault target))).map (·.id) =
          some via.id
      rw [hvia]
      rfl

end Graph

/-- **Where and under what name** exposed declarations are emitted, and which relocations a plan
records. -/
theorem Plan.placed_and_named {graph : Graph} (h : graph.Built) {depth : Nat} {byDefault : Bool}
    {plan : Plan} (hplan : (Run.ofGraph graph depth byDefault).plan = .ok plan) :
    (∀ entry ∈ plan.entries, ∃ target ∈ graph.declarations, target.id = entry.canonical ∧
      entry.homeModule = target.module ∧
      (∀ asking ∈ graph.requesters depth byDefault target, asking.carries .exposeHere →
        graph.site? asking = some entry.emissionModule) ∧
      ((∀ asking ∈ graph.requesters depth byDefault target, ¬ asking.carries .exposeHere) →
        entry.emissionModule = entry.homeModule) ∧
      (entry.exposure = if entry.emissionModule ≠ entry.homeModule then .relocated
        else if graph.isVisible byDefault target then .direct else .forwardedAlias) ∧
      (∀ a ∈ graph.requesters depth byDefault target,
        ∀ b ∈ graph.requesters depth byDefault target,
          a.carries .encourage → b.carries .encourage → a = b) ∧
      match graph.namer? depth byDefault target with
      | some asking => entry.externalName = asking.shortName ∧ entry.namedBy = some asking.id
      | none => graph.isVisible byDefault target ∧ entry.externalName = target.shortName ∧
          entry.namedBy = none) ∧
    List.Forall₂ (graph.Moves depth byDefault) (plan.entries.filter (·.isRelocated))
      plan.relocations := by
  have hgraph := h.wellFormed
  have hdecided := Run.decided_of_plan hgraph hplan
  constructor
  · intro entry hentry
    obtain ⟨target, htarget, rfl⟩ := hdecided.mem_entries.1 hentry
    obtain ⟨hmem, hbindable, -⟩ := (Graph.mem_exposed hgraph).1 htarget
    have hemittable := hdecided.emittable target htarget
    refine ⟨target, hmem, rfl, rfl, fun asking hasking ↦ ?_, Graph.emissionModule_eq_home, rfl,
      hemittable.one_encouraged, ?_⟩
    · exact Graph.site?_eq_emissionModule hgraph hdecided.orderly hbindable hemittable hasking
    · -- The name and its giver are those of the namer; without one the target is wanted for itself.
      have hname : (graph.entry depth byDefault target).externalName =
          ((graph.namer? depth byDefault target).getD target).shortName := rfl
      have hnamedBy : (graph.entry depth byDefault target).namedBy =
          (graph.namer? depth byDefault target).map (·.id) := rfl
      rw [hname, hnamedBy]
      rcases hnamer : graph.namer? depth byDefault target with - | asking
      · have hwanted := (List.mem_filter.1 htarget).1
        exact ⟨Graph.isVisible_of_namer?_eq_none hgraph hwanted hnamer, rfl, rfl⟩
      · exact ⟨rfl, rfl⟩
  · rw [hdecided.entries, hdecided.relocations]
    exact Graph.forall₂_moves fun target htarget ↦ ((Graph.mem_exposed hgraph).1 htarget).1

/-- In the sample the point moves to the interface, for the alias there asks for it. -/
theorem Document.sampleGraph_moves :
    ∃ plan, (Run.ofGraph sampleGraph 64 false).plan = .ok plan ∧
      plan.relocations = [⟨⟨2⟩, ⟨1⟩, ⟨2⟩, ⟨4⟩⟩] ∧
      List.Forall₂ (sampleGraph.Moves 64 false) (plan.entries.filter (·.isRelocated))
        plan.relocations := by
  obtain ⟨plan, hplan⟩ : ∃ plan, (Run.ofGraph sampleGraph 64 false).plan = .ok plan := ⟨_, rfl⟩
  refine ⟨plan, hplan, ?_, (Plan.placed_and_named sampleGraph_built hplan).2⟩
  cases hplan
  rfl

end Exposure
