import Exposure.Proofs.Plan.Imports

/-!
# Bindings of aliases

An alias that is marked visible gives a name of its own to the declaration its chain ends at. Such
a **binding** is either the external name of an entry or one of the names beside it, and none is
lost or made twice (`Plan.binds_each_alias_once`).

Which of the two it is depends on all requesters of the target. That it is exactly one of them does
not: an entry lists as forwarded what is marked visible and has not given the name
(`Graph.nodup_bound_entry`). That no other entry has the binding is due to the chain, which ends at
one target only (`Plan.Decided.nodup_bindings`).
-/

namespace Exposure

/-- The aliases that an entry is bound to by name, as often as it says so. -/
def PlanEntry.bound (entry : PlanEntry) : List DeclId :=
  entry.namedBy.toList ++ entry.forwarded.map (·.aliasId)

/-- All bindings of a plan, entry by entry. -/
def Plan.bindings (plan : Plan) : List DeclId := plan.entries.flatMap (·.bound)

theorem PlanEntry.mem_bound {entry : PlanEntry} {id : DeclId} :
    id ∈ entry.bound ↔ entry.Binds id := by
  rw [bound, Binds, List.mem_append, Option.mem_toList, List.mem_map]

namespace Graph

variable {graph : Graph} {depth : Nat} {byDefault : Bool} {target : Declaration}

/-- The requesters of a target that are forwarded: those marked visible that do not give it its
name. -/
def forwards (graph : Graph) (depth : Nat) (byDefault : Bool) (target : Declaration) :
    List Declaration :=
  (graph.requesters depth byDefault target).filter fun asking ↦
    asking.carries .visible && graph.namer? depth byDefault target ≠ some asking

theorem mem_forwards {asking : Declaration} :
    asking ∈ graph.forwards depth byDefault target ↔
      asking ∈ graph.requesters depth byDefault target ∧ asking.carries .visible ∧
        graph.namer? depth byDefault target ≠ some asking := by
  rw [forwards, List.mem_filter, Bool.and_eq_true, decide_eq_true_iff]

/-- What is forwarded is written down with its module and its short name. -/
theorem forwarded_entry :
    (graph.entry depth byDefault target).forwarded =
      (graph.forwards depth byDefault target).map fun asking ↦
        ⟨asking.id, asking.module, asking.shortName⟩ := rfl

theorem bound_entry :
    (graph.entry depth byDefault target).bound =
      ((graph.namer? depth byDefault target).toList ++
        graph.forwards depth byDefault target).map (·.id) := by
  rw [PlanEntry.bound, forwarded_entry, List.map_append, List.map_map]
  have hnamedBy : (graph.entry depth byDefault target).namedBy =
      (graph.namer? depth byDefault target).map (·.id) := rfl
  rw [hnamedBy]
  cases graph.namer? depth byDefault target <;> rfl

/-- An entry is bound to no alias twice: what gives the name is not forwarded besides. -/
theorem nodup_bound_entry (hgraph : graph.WellFormed) :
    (graph.entry depth byDefault target).bound.Nodup := by
  have hnodup : ((graph.namer? depth byDefault target).toList ++
      graph.forwards depth byDefault target).Nodup := by
    refine List.Nodup.append ?_ ((nodup_requesters hgraph).filter _) fun asking hnamer hforward ↦ ?_
    · cases graph.namer? depth byDefault target <;> simp
    · exact (mem_forwards.1 hforward).2.2 (Option.mem_toList.1 hnamer)
  have hdeclared : ∀ asking ∈ (graph.namer? depth byDefault target).toList ++
      graph.forwards depth byDefault target, asking ∈ graph.declarations := by
    intro asking hasking
    have hrequester : asking ∈ graph.requesters depth byDefault target := by
      rcases List.mem_append.1 hasking with hnamer | hforward
      · exact mem_requesters_of_namer? (Option.mem_toList.1 hnamer)
      · exact (mem_forwards.1 hforward).1
    exact ((mem_requesters hgraph).1 hrequester).1
  rw [bound_entry]
  exact hnodup.map_on fun a ha b hb hid ↦
    hgraph.declaration_unique (hdeclared a ha) (hdeclared b hb) hid

/-- Whoever is bound to the entry of a target resolves to the target. -/
theorem target?_of_mem_bound_entry (hgraph : graph.WellFormed) {asking : Declaration}
    (hmem : asking ∈ graph.declarations)
    (hbound : asking.id ∈ (graph.entry depth byDefault target).bound) :
    asking.isAlias ∧ graph.target? depth asking = some target := by
  obtain ⟨binder, hbinder, hid⟩ := binds_entry.1 (PlanEntry.mem_bound.1 hbound)
  obtain ⟨hdeclared, hrequests⟩ := (mem_requesters hgraph).1 (List.mem_filter.1 hbinder).1
  obtain ⟨halias, htarget, -⟩ := requests_iff.1 hrequests
  rw [← hgraph.declaration_unique hdeclared hmem hid]
  exact ⟨halias, htarget⟩

/-- On an orderly graph what is marked visible is not hidden besides, and so it requests. -/
theorem mem_requesters_of_carries_visible (hgraph : graph.WellFormed)
    (horderly : graph.Orderly depth) {asking : Declaration} (hmem : asking ∈ graph.declarations)
    (halias : asking.isAlias) (htarget : graph.target? depth asking = some target)
    (hvisible : asking.carries .visible) :
    asking ∈ graph.requesters depth byDefault target := by
  have hasks : asking.asksExposure := Marks.askExposure_iff.2 (.inl hvisible)
  have hshown : ¬ asking.carries .hidden := fun hhidden ↦
    (horderly.declarations asking hmem).agrees (Marks.conflict_iff.2 ⟨hhidden, .inl hvisible⟩)
  exact (mem_requesters hgraph).2 ⟨hmem, requests_iff.2 ⟨halias, htarget, hshown, .inl hasks⟩⟩

end Graph

namespace Plan.Decided

variable {graph : Graph} {depth : Nat} {byDefault : Bool} {plan : Plan}

/-- **No binding is made twice**, in one entry or in two. -/
theorem nodup_bindings (h : plan.Decided graph depth byDefault) (hgraph : graph.WellFormed) :
    plan.bindings.Nodup := by
  have hexposed : (graph.exposed depth byDefault).Nodup := Graph.nodup_wanted.filter _
  rw [bindings, h.entries, List.flatMap_map, List.nodup_flatMap]
  refine ⟨fun target _ ↦ Graph.nodup_bound_entry hgraph, hexposed.imp fun {a b} hne ↦ ?_⟩
  -- An alias that is bound to two entries would resolve to both targets.
  intro id ha hb
  obtain ⟨binder, hbinder, rfl⟩ := Graph.binds_entry.1 (PlanEntry.mem_bound.1 ha)
  have hmem := (Graph.of_mem_binders hgraph hbinder).1
  have hfirst := (Graph.target?_of_mem_bound_entry hgraph hmem ha).2
  have hsecond := (Graph.target?_of_mem_bound_entry hgraph hmem hb).2
  exact hne (Option.some.inj (hfirst.symm.trans hsecond))

/-- **No binding is lost**: an alias that is marked visible is bound to the entry of its target. -/
theorem exists_binding (h : plan.Decided graph depth byDefault) (hgraph : graph.WellFormed)
    {asking target : Declaration} (hmem : asking ∈ graph.declarations) (halias : asking.isAlias)
    (hvisible : asking.carries .visible) (htarget : graph.target? depth asking = some target)
    (hbindable : target.kind.isBindable) (hshown : ¬ target.carries .hidden) :
    ∃ entry ∈ plan.entries, entry.canonical = target.id ∧
      (entry.namedBy = some asking.id ∨
        ⟨asking.id, asking.module, asking.shortName⟩ ∈ entry.forwarded) := by
  have hasking : asking ∈ graph.requesters depth byDefault target :=
    Graph.mem_requesters_of_carries_visible hgraph h.orderly hmem halias htarget hvisible
  have hexposed : target ∈ graph.exposed depth byDefault :=
    (Graph.mem_exposed hgraph).2 ⟨Graph.target?_mem hmem htarget, hbindable, hshown,
      .inr ⟨asking, (Graph.mem_requesters hgraph).1 hasking⟩⟩
  refine ⟨_, h.mem_entries.2 ⟨target, hexposed, rfl⟩, rfl, ?_⟩
  by_cases hnamer : graph.namer? depth byDefault target = some asking
  · exact .inl (Option.map_eq_some_iff.2 ⟨asking, hnamer, rfl⟩)
  · exact .inr (List.mem_map.2 ⟨asking, Graph.mem_forwards.2 ⟨hasking, hvisible, hnamer⟩, rfl⟩)

end Plan.Decided

/-- **No alias binding is lost or duplicated.** An alias that is marked visible and leads to a
bindable target that is not hidden is bound exactly once, by the entry of its target; what is
forwarded is such an alias, in traversal order; and a name that an alias gave is its own. -/
theorem Plan.binds_each_alias_once {graph : Graph} (h : graph.Built) {depth : Nat}
    {byDefault : Bool} {plan : Plan}
    (hplan : (Run.ofGraph graph depth byDefault).plan = .ok plan) :
    (∀ asking ∈ graph.declarations, asking.isAlias → asking.carries .visible →
      ∀ target, graph.target? depth asking = some target → target.kind.isBindable →
        ¬ target.carries .hidden →
          plan.bindings.count asking.id = 1 ∧
          ∃ entry ∈ plan.entries, entry.canonical = target.id ∧
            (entry.namedBy = some asking.id ∨
              ⟨asking.id, asking.module, asking.shortName⟩ ∈ entry.forwarded)) ∧
    (∀ entry ∈ plan.entries, ∀ forwarded ∈ entry.forwarded,
      ∃ asking ∈ graph.declarations, asking.isAlias ∧ asking.carries .visible ∧
        (∃ target, graph.target? depth asking = some target ∧ target.id = entry.canonical ∧
          target.kind.isBindable ∧ ¬ target.carries .hidden) ∧
        forwarded = ⟨asking.id, asking.module, asking.shortName⟩) ∧
    (∀ entry ∈ plan.entries,
      (entry.forwarded.map (·.aliasId)).Sublist (graph.traversal.map (·.id))) ∧
    ∀ entry ∈ plan.entries, ∀ id, entry.namedBy = some id →
      ∃ asking ∈ graph.declarations, asking.id = id ∧ asking.isAlias ∧
        (∃ target, graph.target? depth asking = some target ∧ target.id = entry.canonical) ∧
        entry.externalName = asking.shortName := by
  have hgraph := h.wellFormed
  have hdecided := Run.decided_of_plan hgraph hplan
  refine ⟨fun asking hmem halias hvisible target htarget hbindable hshown ↦ ?_,
    fun entry hentry forwarded hforwarded ↦ ?_, fun entry hentry ↦ ?_,
    fun entry hentry id hnamedBy ↦ ?_⟩
  · -- Some entry binds the alias, and over all entries no binding comes twice.
    obtain ⟨entry, hentry, hcanonical, hbound⟩ :=
      hdecided.exists_binding hgraph hmem halias hvisible htarget hbindable hshown
    have hbinds : entry.Binds asking.id := hbound.imp_right fun hforwarded ↦ ⟨_, hforwarded, rfl⟩
    have hbinding : asking.id ∈ plan.bindings :=
      List.mem_flatMap.2 ⟨entry, hentry, PlanEntry.mem_bound.2 hbinds⟩
    exact ⟨List.count_eq_one_of_mem (hdecided.nodup_bindings hgraph) hbinding,
      entry, hentry, hcanonical, hbound⟩
  · obtain ⟨target, htarget, rfl⟩ := hdecided.mem_entries.1 hentry
    obtain ⟨asking, hasking, rfl⟩ := List.mem_map.1 hforwarded
    obtain ⟨hrequester, hvisible, -⟩ := Graph.mem_forwards.1 hasking
    obtain ⟨hmem, hrequests⟩ := (Graph.mem_requesters hgraph).1 hrequester
    obtain ⟨halias, hleads, -⟩ := Graph.requests_iff.1 hrequests
    obtain ⟨-, hbindable, hshown, -⟩ := (Graph.mem_exposed hgraph).1 htarget
    exact ⟨asking, hmem, halias, hvisible, ⟨target, hleads, rfl, hbindable, hshown⟩, rfl⟩
  · obtain ⟨target, htarget, rfl⟩ := hdecided.mem_entries.1 hentry
    -- What is forwarded is picked from the requesters, and these from the traversal.
    rw [Graph.forwarded_entry, List.map_map]
    exact (List.filter_sublist.trans List.filter_sublist).map _
  · obtain ⟨target, htarget, rfl⟩ := hdecided.mem_entries.1 hentry
    obtain ⟨asking, hnamer, rfl⟩ := Option.map_eq_some_iff.1 hnamedBy
    obtain ⟨hmem, hrequests⟩ :=
      (Graph.mem_requesters hgraph).1 (Graph.mem_requesters_of_namer? hnamer)
    obtain ⟨halias, hleads, -⟩ := Graph.requests_iff.1 hrequests
    refine ⟨asking, hmem, rfl, halias, ⟨target, hleads, rfl⟩, ?_⟩
    -- An entry has the short name of its namer where it has one.
    show ((graph.namer? depth byDefault target).getD target).shortName = asking.shortName
    rw [hnamer]
    rfl

/-- In the sample the tools bind the point once, beside the name that the interface gives it. -/
theorem Document.sampleGraph_binds :
    ∃ plan, (Run.ofGraph sampleGraph 64 false).plan = .ok plan ∧
      plan.bindings = [⟨4⟩, ⟨5⟩] ∧ plan.bindings.count ⟨5⟩ = 1 := by
  obtain ⟨plan, hplan⟩ : ∃ plan, (Run.ofGraph sampleGraph 64 false).plan = .ok plan := ⟨_, rfl⟩
  have hdot : (⟨⟨5⟩, "tools::Dot", .typeAlias, ⟨3⟩, none, some "api::Spot",
      [⟨"visible", none⟩]⟩ : Declaration) ∈ sampleGraph.declarations := by simp [sampleGraph]
  have honce := (Plan.binds_each_alias_once sampleGraph_built hplan).1 _ hdot rfl rfl _ rfl rfl
    (by decide)
  refine ⟨plan, hplan, ?_, honce.1⟩
  cases hplan
  rfl

end Exposure
