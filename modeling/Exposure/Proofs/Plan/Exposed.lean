import Exposure.Proofs.Document.Built
import Exposure.Proofs.Plan.Decided

/-!
# What is exposed

A plan has an entry for a declaration exactly if the declaration is bindable, not hidden, and
visible or requested. No declaration has two entries, and entries are in the order in which the
traversal first comes upon a reason for them: the declaration itself, if it is visible, or an alias
that requests it (`Plan.exposes_exactly`).

Reasons may come from any module, before or after the declaration. That the order of the visits does
not matter for what is exposed, but only for where it is listed, is due to the slots
(`Survey.slots_ofRun`).
-/

namespace Exposure

namespace Plan.Decided

variable {graph : Graph} {depth : Nat} {byDefault : Bool} {plan : Plan}

/-- A declaration has an entry exactly if it is exposed. -/
theorem exists_entry_iff (h : plan.Decided graph depth byDefault) (hgraph : graph.WellFormed)
    {declaration : Declaration} (hmem : declaration ∈ graph.declarations) :
    (∃ entry ∈ plan.entries, entry.canonical = declaration.id) ↔
      declaration ∈ graph.exposed depth byDefault := by
  constructor
  · rintro ⟨entry, hentry, hid⟩
    obtain ⟨target, htarget, rfl⟩ := h.mem_entries.1 hentry
    have hdeclared := ((Graph.mem_exposed hgraph).1 htarget).1
    rwa [← hgraph.declaration_unique hdeclared hmem hid]
  · exact fun hexposed ↦ ⟨_, h.mem_entries.2 ⟨declaration, hexposed, rfl⟩, rfl⟩

/-- No two entries are for the same declaration. -/
theorem nodup_canonical (h : plan.Decided graph depth byDefault) (hgraph : graph.WellFormed) :
    (plan.entries.map (·.canonical)).Nodup := by
  have hcanonical : plan.entries.map (·.canonical) =
      (graph.exposed depth byDefault).map (·.id) := by
    rw [h.entries, List.map_map]
    rfl
  rw [hcanonical]
  refine (Graph.nodup_wanted.filter _).map_on fun a ha b hb hid ↦ ?_
  exact hgraph.declaration_unique ((Graph.mem_exposed hgraph).1 ha).1
    ((Graph.mem_exposed hgraph).1 hb).1 hid

/-- Entries are in the order of the first reasons for them. -/
theorem pairwise_entries (h : plan.Decided graph depth byDefault) (hgraph : graph.WellFormed) :
    plan.entries.Pairwise fun first second ↦ ∀ a ∈ graph.declarations,
      ∀ b ∈ graph.declarations, a.id = first.canonical → b.id = second.canonical →
        graph.traversal.findIdx (graph.prompts depth byDefault a) <
          graph.traversal.findIdx (graph.prompts depth byDefault b) := by
  rw [h.entries, List.pairwise_map]
  refine ((Graph.pairwise_wanted hgraph).filter _).imp_of_mem fun {c d} hc hd hlt ↦ ?_
  intro a ha b hb hida hidb
  rwa [hgraph.declaration_unique ha ((Graph.mem_exposed hgraph).1 hc).1 hida,
    hgraph.declaration_unique hb ((Graph.mem_exposed hgraph).1 hd).1 hidb]

end Plan.Decided

/-- **Exactly the right declarations are exposed**, each once, in the order of the first reasons
for them. Inherited exposure is that which is read outward. -/
theorem Plan.exposes_exactly {graph : Graph} (h : graph.Built) {depth : Nat} {byDefault : Bool}
    {plan : Plan} (hplan : (Run.ofGraph graph depth byDefault).plan = .ok plan) :
    (∀ declaration ∈ graph.declarations, ∀ visible,
      graph.Inherits byDefault declaration.module declaration.parent visible ↔
        graph.inherits byDefault declaration = visible) ∧
    (∀ declaration ∈ graph.declarations,
      (∃ entry ∈ plan.entries, entry.canonical = declaration.id) ↔
        declaration.kind.isBindable ∧ ¬ declaration.carries .hidden ∧
          (graph.isVisible byDefault declaration ∨
            ∃ asking ∈ graph.declarations, graph.requests depth byDefault asking declaration)) ∧
    (∀ entry ∈ plan.entries, ∃ declaration ∈ graph.declarations,
      declaration.id = entry.canonical) ∧
    (plan.entries.map (·.canonical)).Nodup ∧
    plan.entries.Pairwise fun first second ↦ ∀ a ∈ graph.declarations,
      ∀ b ∈ graph.declarations, a.id = first.canonical → b.id = second.canonical →
        graph.traversal.findIdx (graph.prompts depth byDefault a) <
          graph.traversal.findIdx (graph.prompts depth byDefault b) := by
  have hgraph := h.wellFormed
  have hdecided := Run.decided_of_plan hgraph hplan
  refine ⟨fun declaration hmem visible ↦ h.inherits_iff byDefault hmem, fun declaration hmem ↦ ?_,
    fun entry hentry ↦ ?_, hdecided.nodup_canonical hgraph, hdecided.pairwise_entries hgraph⟩
  · rw [hdecided.exists_entry_iff hgraph hmem, Graph.mem_exposed hgraph]
    exact and_iff_right hmem
  · obtain ⟨target, htarget, rfl⟩ := hdecided.mem_entries.1 hentry
    exact ⟨target, ((Graph.mem_exposed hgraph).1 htarget).1, rfl⟩

/-- In the sample the point is exposed, for its namespace is visible, and nothing else is. -/
theorem Document.sampleGraph_exposes :
    ∃ plan, (Run.ofGraph sampleGraph 64 false).plan = .ok plan ∧
      plan.entries.map (·.canonical) = [⟨2⟩] ∧ (plan.entries.map (·.canonical)).Nodup := by
  obtain ⟨plan, hplan⟩ : ∃ plan, (Run.ofGraph sampleGraph 64 false).plan = .ok plan := ⟨_, rfl⟩
  refine ⟨plan, hplan, ?_, (Plan.exposes_exactly sampleGraph_built hplan).2.2.2.1⟩
  cases hplan
  rfl

end Exposure
