import Exposure.Proofs.Alias.Walks
import Exposure.Proofs.Document.Built
import Exposure.Proofs.Plan.Decided
import Mathlib.Data.List.Basic

/-!
# Raising the limit of alias chains

An alias chain that is too long comes with the advice to raise the limit. This file says that the
advice is harmless: what came to an end within the limit comes to the same end within any higher
one, and a plan that there is stays as it is (`Run.deeper_limit_keeps_plan`).

A walk asks for the limit last, after the three ways in which it may end by itself. So a walk with
more room makes the same steps until it runs out of the smaller room
(`Alias.walk_eq_or_eq_tooLong`). In a run that comes to a plan no walk has run out, so the two runs
are one and the same before anything is visited (`Run.ofGraph_eq_of_le`).
-/

namespace Exposure

namespace Alias

/-- **The walk has run out of room**: only the limit kept it from going on. -/
def RanOut (outcome : Except Problem Chain) : Prop :=
  ∃ name limit, outcome = .error (.aliasChainTooLong name limit)

/-- A chain that was walked to its end has not run out. -/
theorem not_ranOut_ok (chain : Chain) : ¬ RanOut (.ok chain) := by
  rintro ⟨_, _, ⟨⟩⟩

variable {graph : Graph} {start : Declaration}

/-- **With more room a walk ends as before**, unless it ran out. The induction follows the walk with
less room; the room that is left over makes no difference before the last step. -/
theorem walk_eq_or_eq_tooLong {limit deeper room more : Nat} (hroom : room ≤ more)
    (path : List Declaration) (current : Declaration) :
    walk graph start deeper more path current = walk graph start limit room path current ∨
      walk graph start limit room path current =
        .error (.aliasChainTooLong start.name limit) := by
  fun_induction walk graph start limit room path current generalizing more with
  | case1 room path current hnone =>
    exact .inl (walk_of_lookup_eq_none hnone)
  | case2 room path current next hnext hother =>
    exact .inl (walk_of_not_isAlias hnext (by simpa using hother))
  | case3 room path current next hnext halias hagain =>
    exact .inl (walk_of_mem hnext (by simpa using halias) hagain)
  | case4 path current next hnext halias hnew => exact .inr rfl
  | case5 path current next hnext halias hnew room ih =>
    -- The larger room has a step left too.
    obtain ⟨more, rfl⟩ : ∃ left, more = left + 1 := ⟨more - 1, by omega⟩
    rw [walk_succ hnext (by simpa using halias) hnew]
    exact ih (Nat.le_of_succ_le_succ hroom)

variable {depth deeper : Nat} (hle : depth ≤ deeper)
include hle

/-- **Where the limit did not matter a higher one does not either.** -/
theorem resolve_eq_of_le (h : ¬ RanOut (resolve graph depth start)) :
    resolve graph deeper start = resolve graph depth start := by
  by_cases halias : start.isAlias
  · rw [resolve, resolve, if_pos halias, if_pos halias] at *
    have hroom : max 1 depth - 1 ≤ max 1 deeper - 1 := by omega
    rcases walk_eq_or_eq_tooLong hroom [start] start with hsame | hout
    · exact hsame
    · exact absurd ⟨_, _, hout⟩ h
  · rw [resolve, resolve, if_neg halias, if_neg halias]

/-- What runs out of a higher limit runs out of a lower one. -/
theorem RanOut.of_le (h : RanOut (resolve graph deeper start)) :
    RanOut (resolve graph depth start) := by
  by_contra hwithin
  rw [resolve_eq_of_le hle hwithin] at h
  exact hwithin h

/-- If no alias runs out, all walks end as before. -/
theorem resolveAll_eq_of_le
    (h : ∀ declaration ∈ graph.aliases, ¬ RanOut (resolve graph depth declaration)) :
    resolveAll graph deeper = resolveAll graph depth := by
  refine List.foldl_ext _ _ _ fun resolutions declaration hmem ↦ ?_
  rw [resolve_eq_of_le hle (h declaration hmem)]

end Alias

/-- **A run that comes to a plan is the same run under a higher limit**, before any visit. -/
theorem Run.ofGraph_eq_of_le {graph : Graph} (hgraph : graph.WellFormed) {depth deeper : Nat}
    (hle : depth ≤ deeper) {byDefault : Bool} {plan : Plan}
    (h : (Run.ofGraph graph depth byDefault).plan = .ok plan) :
    Run.ofGraph graph deeper byDefault = Run.ofGraph graph depth byDefault := by
  have horderly := (Run.decided_of_plan hgraph h).orderly
  have hresolved : ∀ declaration ∈ graph.aliases,
      ¬ Alias.RanOut (Alias.resolve graph depth declaration) := by
    intro declaration hmem
    obtain ⟨hdeclared, halias⟩ := List.mem_filter.1 hmem
    obtain ⟨chain, hchain⟩ := (horderly.declarations declaration hdeclared).resolves halias
    rw [hchain]
    exact Alias.not_ranOut_ok chain
  rw [ofGraph, ofGraph, Alias.resolveAll_eq_of_le hle hresolved]

/-- **Raising the limit disturbs nothing.** A plan that there is under one limit is the plan under
every higher one. And whether there is a plan or not, a walk that ended by itself ends in the same
way, in the same chain or with the same problem, and only walks that ran out of the lower limit can
run out of the higher one. -/
theorem Run.deeper_limit_keeps_plan {graph : Graph} (h : graph.Built) {depth deeper : Nat}
    (hle : depth ≤ deeper) (byDefault : Bool) :
    (∀ plan, (Run.ofGraph graph depth byDefault).plan = .ok plan →
      (Run.ofGraph graph deeper byDefault).plan = .ok plan) ∧
    ∀ start,
      (¬ Alias.RanOut (Alias.resolve graph depth start) →
        Alias.resolve graph deeper start = Alias.resolve graph depth start) ∧
      (Alias.RanOut (Alias.resolve graph deeper start) →
        Alias.RanOut (Alias.resolve graph depth start)) := by
  refine ⟨fun plan hplan ↦ ?_, fun start ↦ ⟨Alias.resolve_eq_of_le hle, Alias.RanOut.of_le hle⟩⟩
  rw [Run.ofGraph_eq_of_le h.wellFormed hle hplan]
  exact hplan

/-- The sample, whose longest chain has two aliases, has the same plan under the limit of two and
under the highest; under the limit of one that chain has run out. -/
theorem Document.sampleGraph_deeper :
    (∃ plan, (Run.ofGraph sampleGraph 2 false).plan = .ok plan ∧
      (Run.ofGraph sampleGraph 18446744073709551615 false).plan = .ok plan) ∧
    ∃ start ∈ sampleGraph.declarations,
      Alias.RanOut (Alias.resolve sampleGraph 1 start) ∧
      Alias.resolve sampleGraph 18446744073709551615 start =
        Alias.resolve sampleGraph 2 start := by
  obtain ⟨hplan, hwalks⟩ := Run.deeper_limit_keeps_plan sampleGraph_built
    (show 2 ≤ 18446744073709551615 by decide) false
  refine ⟨⟨_, rfl, hplan _ rfl⟩, _, List.getLast_mem (List.cons_ne_nil _ _), ⟨_, _, rfl⟩, ?_⟩
  exact (hwalks _).1 (Alias.not_ranOut_ok _)

end Exposure
