import Exposure.Proofs.Alias.Cycles
import Mathlib.Data.List.Perm.Subperm
import Mathlib.Logic.Relation

/-!
# Walks along aliases

A walk takes a **route**: from an alias to the one it points at, and so on, never to the same alias
twice (`Graph.Route`). Where the route cannot go on the walk ends, in one of four ways
(`Alias.Outcome`, `Alias.outcome_resolve`).

Which of them it is does not depend on the route but only on the graph around the start: whether
more aliases can be met than the limit allows (`Graph.MeetsMore`), and if not, whether an alias is
met that points at nothing, or a cycle. The last section says so for each of the three problems a
walk can come to.
-/

namespace Exposure

open Relation (ReflTransGen)

namespace Graph

/-- **The route of a walk**: the aliases on the way, and the one it has come to. -/
inductive Route (graph : Graph) (start : Declaration) : List Declaration → Declaration → Prop
  | here (isAlias : start.isAlias) : Route graph start [start] start
  | onward {path : List Declaration} {current next : Declaration}
      (before : Route graph start path current) (points : graph.PointsAt current next)
      (isAlias : next.isAlias) (new : next ∉ path) : Route graph start (path ++ [next]) next

/-- Following aliases from a start, more distinct ones are met than a limit says. -/
def MeetsMore (graph : Graph) (limit : Nat) (start : Declaration) : Prop :=
  ∃ met : List Declaration, met.Nodup ∧ limit < met.length ∧
    ∀ one ∈ met, one.isAlias ∧ ReflTransGen graph.PointsAt start one

variable {graph : Graph} {start current next : Declaration} {path : List Declaration}

namespace Route

theorem nodup (h : graph.Route start path current) : path.Nodup := by
  induction h with
  | here => exact List.nodup_singleton _
  | onward _ _ _ new ih =>
    refine List.Nodup.append ih (List.nodup_singleton _) fun one hone hnext ↦ new ?_
    rwa [← List.mem_singleton.1 hnext]

theorem start_mem (h : graph.Route start path current) : start ∈ path := by
  induction h with
  | here => exact List.mem_singleton_self _
  | onward _ _ _ _ ih => exact List.mem_append_left _ ih

/-- Whatever is on the way is an alias that the start leads to. -/
theorem met (h : graph.Route start path current) {one : Declaration} (hone : one ∈ path) :
    one.isAlias ∧ ReflTransGen graph.PointsAt start one := by
  have hcurrent {path : List Declaration} {current : Declaration}
      (h : graph.Route start path current) : ReflTransGen graph.PointsAt start current := by
    induction h with
    | here => exact .refl
    | onward _ points _ _ ih => exact ih.tail points
  induction h with
  | here isAlias =>
    rw [List.mem_singleton.1 hone]
    exact ⟨isAlias, .refl⟩
  | onward before points isAlias _ ih =>
    rcases List.mem_append.1 hone with hone | hone
    · exact ih hone
    · rw [List.mem_singleton.1 hone]
      exact ⟨isAlias, (hcurrent before).tail points⟩

/-- The way of a route follows the aliases, and ends where the route has come to. -/
theorem isChain (h : graph.Route start path current) :
    path.IsChain graph.PointsAt ∧ path.getLast? = some current := by
  induction h with
  | here => exact ⟨List.isChain_singleton _, rfl⟩
  | onward _ points _ _ ih =>
    obtain ⟨hchain, hlast⟩ := ih
    refine ⟨List.isChain_append.2 ⟨hchain, List.isChain_singleton _, ?_⟩, List.getLast?_concat⟩
    intro last hmem first hfirst
    obtain rfl := Option.some.inj (hlast.symm.trans hmem)
    obtain rfl : _ = first := by simpa using hfirst
    exact points

theorem current_isAlias (h : graph.Route start path current) : current.isAlias :=
  (h.met (List.mem_of_getLast? h.isChain.2)).1

/-- What an alias on the way points at is on the way too, unless the route has just come there. -/
theorem mem_of_pointsAt (h : graph.Route start path current) {one other : Declaration}
    (hone : one ∈ path) (hpoints : graph.PointsAt one other) : other ∈ path ∨ one = current := by
  induction h with
  | here => exact .inr (List.mem_singleton.1 hone)
  | onward _ points _ _ ih =>
    rcases List.mem_append.1 hone with hone | hone
    · rcases ih hone with hother | rfl
      · exact .inl (List.mem_append_left _ hother)
      · obtain rfl := points.unique hpoints
        exact .inl (by simp)
    · exact .inr (List.mem_singleton.1 hone)

/-- **From a route that cannot go on to a new alias** no others can be met than those on it. -/
theorem mem_of_closed (h : graph.Route start path current)
    (hclosed : ∀ next, graph.PointsAt current next → next.isAlias → next ∈ path)
    {one : Declaration} (hone : ReflTransGen graph.PointsAt start one) (halias : one.isAlias) :
    one ∈ path := by
  induction hone with
  | refl => exact h.start_mem
  | tail _ hpoints ih =>
    rcases h.mem_of_pointsAt (ih hpoints.isAlias) hpoints with hmem | rfl
    · exact hmem
    · exact hclosed _ hpoints halias

/-- From a route within the limit that cannot go on, not more is met than the limit allows. -/
theorem not_meetsMore (h : graph.Route start path current)
    (hclosed : ∀ next, graph.PointsAt current next → next.isAlias → next ∈ path) {limit : Nat}
    (hwithin : path.length ≤ limit) : ¬ graph.MeetsMore limit start := by
  rintro ⟨met, hnodup, hmore, hmet⟩
  have hsubset : met ⊆ path := fun one hone ↦
    h.mem_of_closed hclosed (hmet one hone).2 (hmet one hone).1
  have hlength := (List.subperm_of_subset hnodup hsubset).length_le
  omega

/-- What is dropped is the way to the first visit. -/
theorem dropWhile_ne_append_cons {before behind : List Declaration} (hnew : next ∉ before) :
    (before ++ next :: behind).dropWhile (· ≠ next) = next :: behind := by
  rw [List.dropWhile_append_of_pos fun one hone ↦ ?_]
  · exact List.dropWhile_cons_of_neg (by simp)
  · simpa using fun heq : one = next ↦ hnew (heq ▸ hone)

/-- **A route that comes back to itself** has met a cycle. -/
theorem isCycle (h : graph.Route start path current) (hpoints : graph.PointsAt current next)
    (hagain : next ∈ path) :
    graph.IsCycle (path.dropWhile (· ≠ next) : List Declaration) ∧
      next ∈ path.dropWhile (· ≠ next) := by
  obtain ⟨hchain, hlast⟩ := h.isChain
  have hnodup := h.nodup
  obtain ⟨before, behind, hpath, hnew⟩ := List.eq_append_cons_of_mem hagain
  -- The way to the first visit is outside of the cycle.
  have hdrop : path.dropWhile (· ≠ next) = next :: behind := by
    rw [hpath, dropWhile_ne_append_cons hnew]
  rw [hpath] at hchain hlast hnodup
  rw [hdrop]
  refine ⟨⟨by simp, ?_, ?_⟩, List.mem_cons_self⟩
  · exact Cycle.nodup_coe_iff.2 (hnodup.sublist (List.sublist_append_right _ _))
  · rw [List.getLast?_append_of_ne_nil _ (List.cons_ne_nil _ _)] at hlast
    rw [Cycle.chain_coe_cons, ← List.cons_append]
    refine List.isChain_append.2 ⟨(List.isChain_append.1 hchain).2.1, List.isChain_singleton _, ?_⟩
    intro last hmem first hfirst
    obtain rfl := Option.some.inj (hlast.symm.trans hmem)
    obtain rfl : next = first := by simpa using hfirst
    exact hpoints

end Route

/-- Whoever is met from within a cycle is in the cycle. -/
theorem IsCycle.mem_of_reaches {cycle : Cycle Declaration} (h : graph.IsCycle cycle)
    {one other : Declaration} (hmem : one ∈ cycle)
    (hreaches : ReflTransGen graph.PointsAt one other) : other ∈ cycle := by
  induction hreaches with
  | refl => exact hmem
  | tail _ hpoints ih => exact h.closed ih hpoints

end Graph

namespace Alias

/-! ### How a walk ends -/

/-- **The ways a walk may end**, each told from the route it has taken. -/
inductive Outcome (graph : Graph) (limit : Nat) (start : Declaration) :
    Except Problem Chain → Prop
  | unresolved {path : List Declaration} {current : Declaration}
      (route : graph.Route start path current) (within : path.length ≤ limit)
      (missing : graph.lookup current.targetText = none) :
      Outcome graph limit start (.error (.unresolvedAlias current.name current.targetText))
  | complete {path : List Declaration} {current target : Declaration}
      (route : graph.Route start path current) (within : path.length ≤ limit)
      (points : graph.PointsAt current target) (other : target.isAlias = false) :
      Outcome graph limit start (.ok ⟨path, target⟩)
  | cyclic {path : List Declaration} {current next : Declaration}
      (route : graph.Route start path current) (within : path.length ≤ limit)
      (points : graph.PointsAt current next) (again : next ∈ path) :
      Outcome graph limit start
        (.error (.cyclicAlias ((fromLowest (path.dropWhile (· ≠ next))).map (·.name))))
  | tooLong {path : List Declaration} {current next : Declaration}
      (route : graph.Route start path current) (full : path.length = limit)
      (points : graph.PointsAt current next) (isAlias : next.isAlias) (new : next ∉ path) :
      Outcome graph limit start (.error (.aliasChainTooLong start.name limit))

variable {graph : Graph} {start : Declaration}

section Step

variable {limit room : Nat} {path : List Declaration} {current next : Declaration}

/-- A walk ends where it comes to nothing. -/
theorem walk_of_lookup_eq_none (hnone : graph.lookup current.targetText = none) :
    walk graph start limit room path current =
      .error (.unresolvedAlias current.name current.targetText) := by
  rw [walk.eq_def]
  dsimp only
  rw [hnone]

/-- A walk ends at what is no alias. -/
theorem walk_of_not_isAlias (hnext : graph.lookup current.targetText = some next)
    (hother : next.isAlias = false) :
    walk graph start limit room path current = .ok ⟨path, next⟩ := by
  rw [walk.eq_def]
  dsimp only
  rw [hnext]
  dsimp only
  rw [if_pos (by simp [hother])]

/-- A walk ends where it has been before. -/
theorem walk_of_mem (hnext : graph.lookup current.targetText = some next)
    (halias : next.isAlias) (hagain : next ∈ path) :
    walk graph start limit room path current =
      .error (.cyclicAlias ((fromLowest (path.dropWhile (· ≠ next))).map (·.name))) := by
  rw [walk.eq_def]
  dsimp only
  rw [hnext]
  dsimp only
  rw [if_neg (by simp [halias]), if_pos hagain]

/-- A walk without room ends before a new alias. -/
theorem walk_zero (hnext : graph.lookup current.targetText = some next)
    (halias : next.isAlias) (hnew : next ∉ path) :
    walk graph start limit 0 path current = .error (.aliasChainTooLong start.name limit) := by
  rw [walk, hnext]
  dsimp only
  rw [if_neg (by simp [halias]), if_neg hnew]

/-- A walk with room goes on to a new alias. -/
theorem walk_succ (hnext : graph.lookup current.targetText = some next)
    (halias : next.isAlias) (hnew : next ∉ path) :
    walk graph start limit (room + 1) path current =
      walk graph start limit room (path ++ [next]) next := by
  rw [walk, hnext]
  dsimp only
  rw [if_neg (by simp [halias]), if_neg hnew]

end Step

/-- A walk goes on along its route. The induction follows the walk; the room that is left and the
aliases on the way make up the limit. -/
theorem outcome_walk {limit room : Nat} {path : List Declaration} {current : Declaration}
    (hroute : graph.Route start path current) (hroom : path.length + room = limit) :
    Outcome graph limit start (walk graph start limit room path current) := by
  have hpoints {next : Declaration} {path : List Declaration} {current : Declaration}
      (hroute : graph.Route start path current)
      (hnext : graph.lookup current.targetText = some next) : graph.PointsAt current next :=
    Graph.pointsAt_iff.2 ⟨hroute.current_isAlias, hnext⟩
  fun_induction walk graph start limit room path current with
  | case1 room path current hnone => exact .unresolved hroute (by omega) hnone
  | case2 room path current next hnext hother =>
    exact .complete hroute (by omega) (hpoints hroute hnext) (by simpa using hother)
  | case3 room path current next hnext halias hagain =>
    exact .cyclic hroute (by omega) (hpoints hroute hnext) hagain
  | case4 path current next hnext halias hnew =>
    exact .tooLong hroute (by omega) (hpoints hroute hnext) (by simpa using halias) hnew
  | case5 path current next hnext halias hnew room ih =>
    refine ih (.onward hroute (hpoints hroute hnext) (by simpa using halias) hnew) ?_
    rw [List.length_append, List.length_singleton]
    omega

/-- **How the walk from an alias ends.** -/
theorem outcome_resolve (graph : Graph) (depth : Nat) (halias : start.isAlias) :
    Outcome graph (max 1 depth) start (resolve graph depth start) := by
  rw [resolve, if_pos halias]
  refine outcome_walk (.here halias) ?_
  rw [List.length_singleton]
  omega

/-! ### The problems of walks -/

variable {depth : Nat}

/-- An alias that points at nothing is unresolved. -/
theorem resolve_of_lookup_eq_none (halias : start.isAlias)
    (hnone : graph.lookup start.targetText = none) :
    resolve graph depth start = .error (.unresolvedAlias start.name start.targetText) := by
  rw [resolve, if_pos halias, walk_of_lookup_eq_none hnone]

/-- What is reported as unresolved is an alias that points at nothing. -/
theorem of_resolve_eq_unresolved (hmem : start ∈ graph.declarations) (halias : start.isAlias)
    {name target : String} (h : resolve graph depth start = .error (.unresolvedAlias name target)) :
    ∃ asking ∈ graph.declarations, asking.isAlias ∧ asking.name = name ∧
      asking.targetText = target ∧ graph.lookup target = none := by
  have houtcome := outcome_resolve graph depth halias
  rw [h] at houtcome
  rcases houtcome with ⟨route, -, missing⟩ | _ | _ | _
  rename_i path current
  refine ⟨current, ?_, route.current_isAlias, rfl, rfl, missing⟩
  -- The end of the route is the start or pointed at.
  rcases route with - | ⟨-, points, -, -⟩
  · exact hmem
  · exact points.mem

/-- **A cycle within the limit is found from each of its members**, and reported from its lowest. -/
theorem resolve_of_isCycle {members : List Declaration} (hcycle : graph.IsCycle members)
    (hids : (members.map (·.id)).Nodup) (hwithin : members.length ≤ max 1 depth)
    (hmem : start ∈ members) :
    resolve graph depth start =
      .error (.cyclicAlias ((fromLowest members).map (·.name))) := by
  have hcycleMem {one : Declaration} : one ∈ (members : Cycle Declaration) ↔ one ∈ members :=
    Cycle.mem_coe_iff
  have halias : start.isAlias := hcycle.isAlias (hcycleMem.2 hmem)
  have houtcome := outcome_resolve graph depth halias
  -- The route does not leave the cycle.
  have hroute {path : List Declaration} {current : Declaration}
      (route : graph.Route start path current) : path ⊆ members := fun one hone ↦
    hcycleMem.1 (hcycle.mem_of_reaches (hcycleMem.2 hmem) (route.met hone).2)
  have hcurrent {path : List Declaration} {current : Declaration}
      (route : graph.Route start path current) : current ∈ (members : Cycle Declaration) :=
    hcycleMem.2 (hroute route (List.mem_of_getLast? route.isChain.2))
  generalize resolve graph depth start = result at houtcome ⊢
  rcases houtcome with ⟨route, within, missing⟩ | ⟨route, within, points, other⟩ |
    ⟨route, within, points, again⟩ | ⟨route, full, points, -, new⟩
  · obtain ⟨next, -, hnext⟩ := hcycle.exists_pointsAt (hcurrent route)
    rw [hnext.lookup_eq] at missing
    cases missing
  · rw [hcycle.isAlias (hcycle.closed (hcurrent route) points)] at other
    cases other
  · obtain ⟨hfound, hnext⟩ := route.isCycle points again
    have hsame := hcycle.eq_of_mem hfound (hcycle.closed (hcurrent route) points)
      (Cycle.mem_coe_iff.2 hnext)
    rw [fromLowest_congr hids hsame]
  · -- The route and where it would go next were more than the members.
    rename_i path current next
    have hnodup : (next :: path).Nodup := List.nodup_cons.2 ⟨new, route.nodup⟩
    have hsubset : next :: path ⊆ members := List.cons_subset.2
      ⟨hcycleMem.1 (hcycle.closed (hcurrent route) points), hroute route⟩
    have hlength := (List.subperm_of_subset hnodup hsubset).length_le
    rw [List.length_cons] at hlength
    omega

/-- What is reported as cyclic is a cycle within the limit. -/
theorem of_resolve_eq_cyclic (halias : start.isAlias) {names : List String}
    (h : resolve graph depth start = .error (.cyclicAlias names)) :
    ∃ members : List Declaration, graph.IsCycle members ∧ members.length ≤ max 1 depth ∧
      names = (fromLowest members).map (·.name) := by
  have houtcome := outcome_resolve graph depth halias
  rw [h] at houtcome
  rcases houtcome with _ | _ | ⟨route, within, points, again⟩ | _
  exact ⟨_, (route.isCycle points again).1,
    (List.dropWhile_sublist _).length_le.trans within, rfl⟩

/-- **A walk is too long exactly if more aliases are met than the limit allows.** -/
theorem resolve_eq_tooLong_iff (halias : start.isAlias) :
    resolve graph depth start = .error (.aliasChainTooLong start.name (max 1 depth)) ↔
      graph.MeetsMore (max 1 depth) start := by
  have houtcome := outcome_resolve graph depth halias
  generalize resolve graph depth start = result at houtcome ⊢
  rcases houtcome with ⟨route, within, missing⟩ | ⟨route, within, points, other⟩ |
    ⟨route, within, points, again⟩ | ⟨route, full, points, nextAlias, new⟩
  · refine iff_of_false (by simp) (route.not_meetsMore (fun next hnext _ ↦ ?_) within)
    rw [hnext.lookup_eq] at missing
    cases missing
  · refine iff_of_false (by simp) (route.not_meetsMore (fun next hnext hnextAlias ↦ ?_) within)
    rw [hnext.unique points, other] at hnextAlias
    cases hnextAlias
  · refine iff_of_false (by simp) (route.not_meetsMore (fun next hnext _ ↦ ?_) within)
    rwa [hnext.unique points]
  · have honward := Graph.Route.onward route points nextAlias new
    refine iff_of_true rfl ⟨_, honward.nodup, ?_, fun one hone ↦ honward.met hone⟩
    rw [List.length_append, List.length_singleton]
    omega

/-- What is reported as too long is the start of a walk, with the limit. -/
theorem of_resolve_eq_tooLong (halias : start.isAlias) {name : String} {limit : Nat}
    (h : resolve graph depth start = .error (.aliasChainTooLong name limit)) :
    name = start.name ∧ limit = max 1 depth := by
  have houtcome := outcome_resolve graph depth halias
  rw [h] at houtcome
  rcases houtcome with _ | _ | _ | _
  exact ⟨rfl, rfl⟩

end Alias
end Exposure
