import Exposure.Proofs.Alias.Walks
import Exposure.Proofs.Graph.Renumbering

/-!
# Chains of renumbered graphs

A walk compares declarations and looks them up by name, so on a renumbered graph it takes the same
way and ends the same (`Alias.mirrors_resolve`). There is one exception: a cycle is told from its
lowest member, and which one is lowest is a matter of numbers. The cycle that is told is the same,
but it may start elsewhere (`Problem.Alike`).

Within one graph this is no freedom: there what is alike is told in the same words
(`Alias.eq_of_alike`).
-/

namespace Exposure

/-- **Problems alike**: the same, but that a cycle of aliases may be told from another member. -/
inductive Problem.Alike : Problem → Problem → Prop
  | same (problem : Problem) : Alike problem problem
  | turned {names names' : List String} (rotated : names.IsRotated names') :
      Alike (.cyclicAlias names) (.cyclicAlias names')

namespace Problem.Alike

variable {problem other third : Problem}

theorem symm (h : problem.Alike other) : other.Alike problem := by
  cases h with
  | same => exact .same _
  | turned rotated => exact .turned rotated.symm

theorem trans (h : problem.Alike other) (h' : other.Alike third) : problem.Alike third := by
  cases h with
  | same => exact h'
  | turned rotated =>
    cases h' with
    | same => exact .turned rotated
    | turned rotated' => exact .turned (rotated.trans rotated')

end Problem.Alike

namespace Alias

/-- A chain with its declarations renumbered. -/
def Chain.renumber (ρ : DeclId → DeclId) (chain : Chain) : Chain :=
  ⟨chain.aliases.map (·.renumber ρ), chain.target.renumber ρ⟩

/-- **Walks that mirror each other**: they complete the same chain, but for numbers, or come to
problems alike. -/
inductive Mirrors (ρ : DeclId → DeclId) : Except Problem Chain → Except Problem Chain → Prop
  | complete (chain : Chain) : Mirrors ρ (.ok chain) (.ok (chain.renumber ρ))
  | stopped {problem problem' : Problem} (alike : problem.Alike problem') :
      Mirrors ρ (.error problem) (.error problem')

section Renumbered

variable {ρ : DeclId → DeclId} {graph graph' : Graph} (h : Graph.Renumbered ρ graph graph')
  (hgraph : graph.WellFormed) (hgraph' : graph'.WellFormed)
include h hgraph hgraph'

/-- **A walk on a renumbered graph mirrors the walk on the graph.** The induction follows the
walk; what was met is met again where its number was. -/
theorem mirrors_walk (start : Declaration) (limit room : Nat) (path : List Declaration)
    (current : Declaration) :
    Mirrors ρ (walk graph start limit room path current)
      (walk graph' (start.renumber ρ) limit room (path.map (·.renumber ρ))
        (current.renumber ρ)) := by
  have hinjective := Declaration.renumber_injective h.injective
  have hlookup (current : Declaration) : graph'.lookup (current.renumber ρ).targetText =
      (graph.lookup current.targetText).map (·.renumber ρ) :=
    h.lookup_eq hgraph hgraph' current.targetText
  have hfound {current next : Declaration} (hnext : graph.lookup current.targetText = some next) :
      graph'.lookup (current.renumber ρ).targetText = some (next.renumber ρ) := by
    rw [hlookup, hnext, Option.map_some]
  have hmem {next : Declaration} {path : List Declaration} :
      next.renumber ρ ∈ path.map (·.renumber ρ) ↔ next ∈ path :=
    List.mem_map_of_injective hinjective
  fun_induction walk graph start limit room path current with
  | case1 room path current hnone =>
    rw [walk_of_lookup_eq_none (by rw [hlookup, hnone, Option.map_none])]
    exact .stopped (.same _)
  | case2 room path current next hnext hother =>
    rw [walk_of_not_isAlias (hfound hnext) (by simpa using hother)]
    exact .complete ⟨path, next⟩
  | case3 room path current next hnext halias hagain =>
    rw [walk_of_mem (hfound hnext) (by simpa using halias) (hmem.2 hagain)]
    refine .stopped (.turned (Cycle.coe_eq_coe.1 ?_))
    -- Both lists of names tell the same cycle, each from where it starts.
    have hdrop : (path.map (·.renumber ρ)).dropWhile (· ≠ next.renumber ρ) =
        (path.dropWhile (· ≠ next)).map (·.renumber ρ) := by
      rw [List.dropWhile_map]
      congr 2
      funext one
      exact decide_eq_decide.2 (not_congr hinjective.eq_iff)
    rw [hdrop, ← Cycle.map_coe, ← Cycle.map_coe, coe_fromLowest, coe_fromLowest, Cycle.map_coe,
      Cycle.map_coe, List.map_map]
    rfl
  | case4 path current next hnext halias hnew =>
    rw [walk_zero (hfound hnext) (by simpa using halias) (mt hmem.1 hnew)]
    exact .stopped (.same _)
  | case5 path current next hnext halias hnew room ih =>
    -- One step on, the way has grown by the mirror image of what it has grown by.
    rw [walk_succ (hfound hnext) (by simpa using halias) (mt hmem.1 hnew)]
    rwa [List.map_append] at ih

/-- **Chains of a renumbered graph mirror those of the graph.** -/
theorem mirrors_resolve (depth : Nat) (start : Declaration) :
    Mirrors ρ (resolve graph depth start) (resolve graph' depth (start.renumber ρ)) := by
  rw [resolve, resolve, Declaration.isAlias_renumber]
  split
  · exact mirrors_walk h hgraph hgraph' start _ _ [start] start
  · exact .complete ⟨[], start⟩

end Renumbered

/-- **In one graph, problems alike that walks come to are the same.** -/
theorem eq_of_alike {graph : Graph} (hgraph : graph.WellFormed) {depth : Nat}
    {start other : Declaration} (halias : start.isAlias) (halias' : other.isAlias)
    {problem problem' : Problem} (hproblem : resolve graph depth start = .error problem)
    (hproblem' : resolve graph depth other = .error problem') (h : problem.Alike problem') :
    problem = problem' := by
  cases h with
  | same => rfl
  | turned rotated =>
    obtain ⟨members, hcycle, -, rfl⟩ := of_resolve_eq_cyclic halias hproblem
    obtain ⟨members', hcycle', -, rfl⟩ := of_resolve_eq_cyclic halias' hproblem'
    have hnames : (members : Cycle Declaration).map (·.name) =
        (members' : Cycle Declaration).map (·.name) := by
      rw [← coe_fromLowest members, ← coe_fromLowest members', Cycle.map_coe, Cycle.map_coe]
      exact Cycle.coe_eq_coe.2 rotated
    rw [fromLowest_congr (hcycle.nodup_ids hgraph)
      (hcycle.eq_of_map_name hgraph hcycle' hnames)]

end Alias
end Exposure
