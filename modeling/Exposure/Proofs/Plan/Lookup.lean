import Exposure.Proofs.Plan.Exposed
import Exposure.Proofs.Plan.Orders

/-!
# Looking declarations up

A plan answers for every declaration of its graph, not only for those it has entries for. What it
answers is the entry of the declaration at the end of the alias chain, if there is one
(`Plan.lookup_follows_chains`).

A look-up does not walk the chain. It tries the declaration itself and then the target that was
written down when the alias was visited, whether or not the alias is hidden. Aliases of name scopes
have no target written down, and that makes no difference: a name scope has no entry.
-/

namespace Exposure

variable {graph : Graph} {depth : Nat} {byDefault : Bool} {plan : Plan}

/-- On an orderly graph the visit of an alias writes down where the alias leads, if a binding can be
made of that. -/
theorem Visit.leadsTo?_ofGraph (hgraph : graph.WellFormed) (horderly : graph.Orderly depth)
    {declaration : Declaration} (hmem : declaration ∈ graph.declarations) {id : DeclId} :
    (Visit.member declaration).leadsTo? (Run.ofGraph graph depth byDefault) =
        some (declaration.id, id) ↔
      declaration.isAlias ∧ ∃ target, graph.target? depth declaration = some target ∧
        target.kind.isBindable ∧ target.id = id := by
  have horder := horderly.declarations declaration hmem
  by_cases halias : declaration.isAlias
  · obtain ⟨annotations, hannotations⟩ := horderly.marksRead.annotations hmem
    obtain ⟨chain, hchain⟩ := horder.resolves halias
    have hagrees : annotations.standing ≠ .conflict := fun h ↦
      horder.agrees ((Annotations.standing_eq_conflict_of_read hannotations).1 h)
    have htarget : graph.target? depth declaration = some chain.target :=
      Graph.target?_eq_some.2 ⟨chain, hchain, rfl⟩
    rw [leadsTo?, Run.get?_store_ofGraph hgraph depth byDefault hmem hannotations,
      Survey.get?_chains_ofGraph hgraph depth byDefault hmem, if_pos halias, if_pos halias, hchain,
      htarget]
    simp [hagrees, halias]
  · rw [leadsTo?, if_neg halias]
    simp [halias]

namespace Plan

/-- **The target behind an alias** is kept if a binding can be made of it; nothing is kept of what
is no alias. -/
theorem get?_aliasTargets_eq_some (hgraph : graph.WellFormed)
    (hplan : (Run.ofGraph graph depth byDefault).plan = .ok plan) {declaration : Declaration}
    (hmem : declaration ∈ graph.declarations) {id : DeclId} :
    plan.aliasTargets.get? declaration.id = some id ↔
      declaration.isAlias ∧ ∃ target, graph.target? depth declaration = some target ∧
        target.kind.isBindable ∧ target.id = id := by
  have hkept : plan.aliasTargets =
      (Survey.ofVisits (Run.ofGraph graph depth byDefault) graph.visits).aliasTargets := by
    rw [(comesTo_of_ofSurvey hplan).aliasTargets, Survey.ofRun_eq]
    rfl
  rw [hkept, Survey.get?_aliasTargets_eq_some hgraph hgraph.visits_perm,
    ← Visit.leadsTo?_ofGraph hgraph (Run.decided_of_plan hgraph hplan).orderly hmem]
  constructor
  · rintro ⟨other, hother, hleads⟩
    rwa [hgraph.declaration_unique hother hmem (Visit.id_of_leadsTo? hleads)] at hleads
  · exact fun hleads ↦ ⟨declaration, hmem, hleads⟩

namespace Decided

variable (h : plan.Decided graph depth byDefault) (hgraph : graph.WellFormed)
include h hgraph

/-- The entry of a declaration is the one that is for it. -/
theorem entryOf?_eq_some {id : DeclId} {entry : PlanEntry} :
    plan.entryOf? id = some entry ↔ entry ∈ plan.entries ∧ entry.canonical = id :=
  find?_eq_some_of_nodup (h.nodup_canonical hgraph)

/-- What no binding can be made of has no entry. -/
theorem entryOf?_eq_none_of_not_isBindable {declaration : Declaration}
    (hmem : declaration ∈ graph.declarations) (hother : ¬ declaration.kind.isBindable) :
    plan.entryOf? declaration.id = none := by
  rw [Option.eq_none_iff_forall_ne_some]
  intro entry hentry
  obtain ⟨hlisted, hid⟩ := (h.entryOf?_eq_some hgraph).1 hentry
  have hexposed := (h.exists_entry_iff hgraph hmem).1 ⟨entry, hlisted, hid⟩
  exact hother ((Graph.mem_exposed hgraph).1 hexposed).2.1

end Decided

/-- **A look-up ends where the alias chain does.** -/
theorem lookup_eq_entryOf? (hgraph : graph.WellFormed)
    (hplan : (Run.ofGraph graph depth byDefault).plan = .ok plan) {declaration target : Declaration}
    (hmem : declaration ∈ graph.declarations)
    (htarget : graph.target? depth declaration = some target) :
    plan.lookup declaration.id = plan.entryOf? target.id := by
  have hdecided := Run.decided_of_plan hgraph hplan
  have hkept (id : DeclId) : plan.aliasTargets.get? declaration.id = some id ↔ _ :=
    get?_aliasTargets_eq_some hgraph hplan hmem
  rw [lookup]
  by_cases halias : declaration.isAlias
  · -- An alias has no entry of its own, so it is left to the target behind it.
    have hown : plan.entryOf? declaration.id = none :=
      hdecided.entryOf?_eq_none_of_not_isBindable hgraph hmem fun hbindable ↦ by
        rw [Declaration.isAlias_eq_false_of_isBindable hbindable] at halias
        cases halias
    rw [hown, Option.none_or]
    by_cases hbindable : target.kind.isBindable
    · rw [(hkept _).2 ⟨halias, target, htarget, hbindable, rfl⟩, Option.bind_some]
    · rw [hdecided.entryOf?_eq_none_of_not_isBindable hgraph (Graph.target?_mem hmem htarget)
        hbindable, Option.bind_eq_none_iff]
      intro id hid
      obtain ⟨-, other, hother, hbindable', -⟩ := (hkept id).1 hid
      rw [htarget, Option.some.injEq] at hother
      exact absurd (hother ▸ hbindable') hbindable
  · -- What is no alias is its own target.
    have hself : target = declaration := by
      obtain ⟨chain, hchain, rfl⟩ := Graph.target?_eq_some.1 htarget
      rw [Alias.resolve, if_neg halias] at hchain
      cases hchain
      rfl
    have hnone : plan.aliasTargets.get? declaration.id = none := by
      rw [Option.eq_none_iff_forall_ne_some]
      exact fun id hid ↦ halias ((hkept id).1 hid).1
    rw [hself, hnone, Option.bind_none, Option.or_none]

end Plan

/-- On an orderly graph every alias chain ends. -/
theorem Graph.Orderly.exists_chain (horderly : graph.Orderly depth) {declaration : Declaration}
    (hmem : declaration ∈ graph.declarations) :
    ∃ chain, Alias.resolve graph depth declaration = .ok chain := by
  by_cases halias : declaration.isAlias
  · exact (horderly.declarations declaration hmem).resolves halias
  · exact ⟨⟨[], declaration⟩, by rw [Alias.resolve, if_neg halias]⟩

/-- **Look-ups follow alias chains.** With a plan every chain ends, and what a plan answers for a
declaration is the entry of the declaration at the end of its chain: the only entry for that one, or
none. So declarations whose chains end at the same one are answered alike, hidden or not, and where
chains end at name scopes there is no answer. -/
theorem Plan.lookup_follows_chains (h : graph.Built)
    (hplan : (Run.ofGraph graph depth byDefault).plan = .ok plan) :
    (∀ declaration ∈ graph.declarations, ∃ chain,
      Alias.resolve graph depth declaration = .ok chain ∧
        plan.lookup declaration.id = plan.entryOf? chain.target.id) ∧
    (∀ id entry, plan.entryOf? id = some entry ↔ entry ∈ plan.entries ∧ entry.canonical = id) ∧
    (∀ a ∈ graph.declarations, ∀ b ∈ graph.declarations,
      graph.target? depth a = graph.target? depth b → plan.lookup a.id = plan.lookup b.id) ∧
    ∀ declaration ∈ graph.declarations, ∀ target, graph.target? depth declaration = some target →
      target.kind = .scope → plan.lookup declaration.id = none := by
  have hgraph := h.wellFormed
  have hdecided := Run.decided_of_plan hgraph hplan
  have hends {declaration : Declaration} (hmem : declaration ∈ graph.declarations) :
      ∃ chain, Alias.resolve graph depth declaration = .ok chain ∧
        graph.target? depth declaration = some chain.target := by
    obtain ⟨chain, hchain⟩ := hdecided.orderly.exists_chain hmem
    exact ⟨chain, hchain, Graph.target?_eq_some.2 ⟨chain, hchain, rfl⟩⟩
  refine ⟨fun declaration hmem ↦ ?_, fun id entry ↦ hdecided.entryOf?_eq_some hgraph,
    fun a ha b hb hsame ↦ ?_, fun declaration hmem target htarget hscope ↦ ?_⟩
  · obtain ⟨chain, hchain, htarget⟩ := hends hmem
    exact ⟨chain, hchain, lookup_eq_entryOf? hgraph hplan hmem htarget⟩
  · obtain ⟨chain, -, htarget⟩ := hends ha
    rw [lookup_eq_entryOf? hgraph hplan ha htarget,
      lookup_eq_entryOf? hgraph hplan hb (hsame.symm.trans htarget)]
  · rw [lookup_eq_entryOf? hgraph hplan hmem htarget]
    exact hdecided.entryOf?_eq_none_of_not_isBindable hgraph (Graph.target?_mem hmem htarget)
      (by simp [hscope, Kind.isBindable])

/-- In the sample the dot of the tools, an alias of an alias, is answered with the point. -/
theorem Document.sampleGraph_looks_up :
    ∃ plan, (Run.ofGraph sampleGraph 64 false).plan = .ok plan ∧
      plan.lookup ⟨5⟩ = plan.entryOf? ⟨2⟩ ∧ (plan.lookup ⟨5⟩).isSome := by
  obtain ⟨plan, hplan⟩ : ∃ plan, (Run.ofGraph sampleGraph 64 false).plan = .ok plan := ⟨_, rfl⟩
  have hdot : (⟨⟨5⟩, "tools::Dot", .typeAlias, ⟨3⟩, none, some "api::Spot",
      [⟨"visible", none⟩]⟩ : Declaration) ∈ sampleGraph.declarations := by simp [sampleGraph]
  obtain ⟨chain, hchain, hlookup⟩ :=
    (Plan.lookup_follows_chains sampleGraph_built hplan).1 _ hdot
  have htarget : chain.target.id = ⟨2⟩ := by
    cases hchain
    rfl
  rw [htarget] at hlookup
  refine ⟨plan, hplan, hlookup, ?_⟩
  cases hplan
  rfl

end Exposure
