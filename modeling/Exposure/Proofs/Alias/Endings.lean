import Exposure.Proofs.Alias.Walks
import Exposure.Proofs.Document.Built

/-!
# What walks come to

The route of a walk decides what the walk comes to: as long as a route is within the limit the walk
follows it (`Alias.resolve_eq_walk`), and so the ways a walk may end are the ways it does end
(`Alias.resolve_eq_iff`). A cycle is reported as a **ring**, from its lowest member round
(`Graph.IsRing`). Rings with a member in common are the same (`Graph.IsRing.eq_of_mem`), so that it
does not matter where a walk enters a cycle.

What every walk comes to is stated in `Alias.resolve_exact`.
-/

namespace Exposure

namespace Graph

/-- **A cycle of aliases as a list**: distinct ones, of which each points at the next one and the
last at the first, starting at the lowest identity. -/
def IsRing (graph : Graph) (members : List Declaration) : Prop :=
  ∃ first rest, members = first :: rest ∧ members.Nodup ∧
    (members ++ [first]).IsChain graph.PointsAt ∧ ∀ one ∈ rest, first.id.number < one.id.number

variable {graph : Graph} {members others : List Declaration}

/-- A ring is a cycle. -/
theorem IsRing.isCycle (h : graph.IsRing members) : graph.IsCycle members := by
  obtain ⟨first, rest, rfl, hnodup, hchain, -⟩ := h
  exact ⟨by simp, Cycle.nodup_coe_iff.2 hnodup, (Cycle.chain_coe_cons _ _ _).2 hchain⟩

/-- **A cycle is turned into a ring.** -/
theorem IsCycle.isRing_fromLowest (hgraph : graph.WellFormed) (h : graph.IsCycle members) :
    graph.IsRing (Alias.fromLowest members) := by
  have hne : members ≠ [] := fun hnil ↦ h.nonempty (hnil ▸ Cycle.coe_nil)
  obtain ⟨first, rest, heq, hle⟩ := Alias.exists_fromLowest_eq_cons hne
  have hturned := Alias.coe_fromLowest members
  rw [heq] at hturned ⊢
  have hcycle : graph.IsCycle (first :: rest : List Declaration) := by
    rw [hturned]
    exact h
  have hnodup : (first :: rest).Nodup := Cycle.nodup_coe_iff.1 hcycle.nodup
  refine ⟨first, rest, rfl, hnodup, (Cycle.chain_coe_cons _ _ _).1 hcycle.chain, fun one hone ↦ ?_⟩
  have hmem : one ∈ members :=
    (Cycle.coe_eq_coe.1 hturned).mem_iff.1 (List.mem_cons_of_mem first hone)
  refine Nat.lt_of_le_of_ne (hle one hmem) fun hnumber ↦ (List.nodup_cons.1 hnodup).1 ?_
  have hid : first.id = one.id := congrArg DeclId.mk hnumber
  rwa [hgraph.declaration_unique
    (hcycle.mem_declarations (Cycle.mem_coe_iff.2 List.mem_cons_self))
    (hcycle.mem_declarations (Cycle.mem_coe_iff.2 (List.mem_cons_of_mem first hone))) hid]

/-- The first of a ring is not above any of its members. -/
theorem IsRing.exists_eq_cons (h : graph.IsRing members) :
    ∃ first rest, members = first :: rest ∧ ∀ one ∈ members, first.id.number ≤ one.id.number := by
  obtain ⟨first, rest, rfl, -, -, hlowest⟩ := h
  exact ⟨first, rest, rfl,
    List.forall_mem_cons.2 ⟨Nat.le_refl _, fun one hone ↦ (hlowest one hone).le⟩⟩

/-- **Rings with a member in common are the same.** Both start at the one lowest member. -/
theorem IsRing.eq_of_mem (hgraph : graph.WellFormed) (h : graph.IsRing members)
    (h' : graph.IsRing others) {one : Declaration} (hmem : one ∈ members) (hmem' : one ∈ others) :
    members = others := by
  have hsame : (members : Cycle Declaration) = others :=
    h.isCycle.eq_of_mem h'.isCycle (Cycle.mem_coe_iff.2 hmem) (Cycle.mem_coe_iff.2 hmem')
  have hids := h.isCycle.nodup_ids hgraph
  obtain ⟨first, rest, rfl, hle⟩ := h.exists_eq_cons
  obtain ⟨first', rest', rfl, hle'⟩ := h'.exists_eq_cons
  exact eq_of_isRotated_of_lowest hids (Cycle.coe_eq_coe.1 hsame) hle hle'

/-- A route from a declaration stays within the declarations. -/
theorem Route.current_mem {start current : Declaration} {path : List Declaration}
    (h : graph.Route start path current) (hstart : start ∈ graph.declarations) :
    current ∈ graph.declarations := by
  rcases h with - | ⟨-, points, -, -⟩
  · exact hstart
  · exact points.mem

/-- A route is a way in and a ring, if it comes back to itself. -/
theorem Route.exists_ring (hgraph : graph.WellFormed) {start current next : Declaration}
    {path : List Declaration} (h : graph.Route start path current)
    (hpoints : graph.PointsAt current next) (hagain : next ∈ path) :
    ∃ tail loop, path = tail ++ next :: loop ∧
      (Alias.fromLowest (path.dropWhile (· ≠ next))).Perm (next :: loop) ∧
      graph.IsRing (Alias.fromLowest (path.dropWhile (· ≠ next))) := by
  obtain ⟨hcycle, -⟩ := h.isCycle hpoints hagain
  obtain ⟨tail, loop, hpath, hnew⟩ := List.eq_append_cons_of_mem hagain
  refine ⟨tail, loop, hpath, ?_, hcycle.isRing_fromLowest hgraph⟩
  rw [hpath, dropWhile_ne_append_cons hnew]
  exact (Alias.isRotated_fromLowest _).perm

end Graph

namespace Alias

variable {graph : Graph} {depth : Nat} {start current : Declaration} {path : List Declaration}
  {result : Except Problem Chain}

/-- **Within the limit a walk follows its route**, by induction on the route. -/
theorem resolve_eq_walk (hroute : graph.Route start path current)
    (hwithin : path.length ≤ max 1 depth) :
    resolve graph depth start =
      walk graph start (max 1 depth) (max 1 depth - path.length) path current := by
  induction hroute with
  | here isAlias =>
    rw [resolve, if_pos isAlias]
    rfl
  | @onward path current next before points isAlias new ih =>
    rw [List.length_append, List.length_singleton] at hwithin ⊢
    obtain ⟨room, hroom⟩ : ∃ room, max 1 depth - path.length = room + 1 :=
      ⟨max 1 depth - path.length - 1, by omega⟩
    have hrest : max 1 depth - (path.length + 1) = room := by omega
    rw [ih (by omega), hroom, hrest, walk_succ points.lookup_eq isAlias new]

/-- **What a walk comes to** is what its route says. -/
theorem resolve_eq_iff (halias : start.isAlias) :
    resolve graph depth start = result ↔ Outcome graph (max 1 depth) start result := by
  constructor
  · rintro rfl
    exact outcome_resolve graph depth halias
  · rintro (⟨route, within, missing⟩ | ⟨route, within, points, other⟩ |
      ⟨route, within, points, again⟩ | ⟨route, full, points, isAlias, new⟩)
    · rw [resolve_eq_walk route within, walk_of_lookup_eq_none missing]
    · rw [resolve_eq_walk route within, walk_of_not_isAlias points.lookup_eq other]
    · obtain ⟨hcycle, hnext⟩ := route.isCycle points again
      have isAlias := hcycle.isAlias (Cycle.mem_coe_iff.2 hnext)
      rw [resolve_eq_walk route within, walk_of_mem points.lookup_eq isAlias again]
    · rw [resolve_eq_walk route full.le, full, Nat.sub_self, walk_zero points.lookup_eq isAlias new]

/-- A walk ends in success exactly if its route ends, within the limit, at what is no alias. -/
theorem resolve_eq_ok_iff (halias : start.isAlias) {target : Declaration} :
    resolve graph depth start = .ok ⟨path, target⟩ ↔
      ∃ last, graph.Route start path last ∧ path.length ≤ max 1 depth ∧
        graph.PointsAt last target ∧ target.isAlias = false := by
  rw [resolve_eq_iff halias]
  constructor
  · rintro (_ | ⟨route, within, points, other⟩ | _ | _)
    exact ⟨_, route, within, points, other⟩
  · rintro ⟨last, route, within, points, other⟩
    exact .complete route within points other

/-- An alias is reported as unresolved exactly if the route comes to it within the limit and it
points at nothing. -/
theorem resolve_eq_unresolved_iff (halias : start.isAlias) {name text : String} :
    resolve graph depth start = .error (.unresolvedAlias name text) ↔
      ∃ path last, graph.Route start path last ∧ path.length ≤ max 1 depth ∧
        last.name = name ∧ last.targetText = text ∧ graph.lookup text = none := by
  rw [resolve_eq_iff halias]
  constructor
  · rintro (⟨route, within, missing⟩ | _ | _ | _)
    exact ⟨_, _, route, within, rfl, rfl, missing⟩
  · rintro ⟨path, last, route, within, rfl, rfl, missing⟩
    exact .unresolved route within missing

/-- A ring is reported exactly if the route comes back to itself within the limit. -/
theorem resolve_eq_cyclic_iff (hgraph : graph.WellFormed) (halias : start.isAlias)
    {names : List String} :
    resolve graph depth start = .error (.cyclicAlias names) ↔
      ∃ tail next loop last members, graph.Route start (tail ++ next :: loop) last ∧
        (tail ++ next :: loop).length ≤ max 1 depth ∧ graph.PointsAt last next ∧
        members.Perm (next :: loop) ∧ graph.IsRing members ∧ names = members.map (·.name) := by
  rw [resolve_eq_iff halias]
  constructor
  · rintro (_ | _ | ⟨route, within, points, again⟩ | _)
    obtain ⟨tail, loop, hpath, hperm, hring⟩ := route.exists_ring hgraph points again
    exact ⟨tail, _, loop, _, _, hpath ▸ route, hpath ▸ within, points, hperm, hring, rfl⟩
  · rintro ⟨tail, next, loop, last, members, route, within, points, hperm, hring, rfl⟩
    have hagain : next ∈ tail ++ next :: loop := by simp
    obtain ⟨-, hnext⟩ := route.isCycle points hagain
    obtain ⟨-, -, -, -, hfound⟩ := route.exists_ring hgraph points hagain
    -- The walk reports a ring with the same member.
    have hmem := (isRotated_fromLowest _).mem_iff.2 hnext
    rw [hring.eq_of_mem hgraph hfound (hperm.mem_iff.2 List.mem_cons_self) hmem]
    exact .cyclic route within points hagain

/-- What is reported of a walk that goes round is a ring. -/
theorem exists_ring_of_resolve_eq_cyclic (hgraph : graph.WellFormed) {names : List String}
    (h : resolve graph depth start = .error (.cyclicAlias names)) :
    ∃ members, graph.IsRing members ∧ names = members.map (·.name) := by
  have halias : start.isAlias := by
    by_contra hother
    rw [resolve, if_neg hother] at h
    cases h
  obtain ⟨-, -, -, -, members, -, -, -, -, hring, hnames⟩ :=
    (resolve_eq_cyclic_iff hgraph halias).1 h
  exact ⟨members, hring, hnames⟩

/-- A walk is reported as too long exactly if its route goes on beyond the limit. -/
theorem resolve_eq_aliasChainTooLong_iff (halias : start.isAlias) {name : String} {limit : Nat} :
    resolve graph depth start = .error (.aliasChainTooLong name limit) ↔
      name = start.name ∧ limit = max 1 depth ∧
        ∃ path last, graph.Route start path last ∧ path.length = max 1 depth + 1 := by
  rw [resolve_eq_iff halias]
  constructor
  · rintro (_ | _ | _ | ⟨route, full, points, isAlias, new⟩)
    refine ⟨rfl, rfl, _, _, .onward route points isAlias new, ?_⟩
    rw [List.length_append, List.length_singleton, full]
  · rintro ⟨rfl, rfl, path, last, route, hlength⟩
    rcases route with - | ⟨before, points, isAlias, new⟩
    · rw [List.length_singleton] at hlength
      omega
    · rw [List.length_append, List.length_singleton] at hlength
      exact .tooLong before (Nat.succ_injective hlength) points isAlias new

/-- **What a walk comes to, whatever the limit.** What is no alias is its own target. From an alias
the walk goes as far as its route, which never comes to the same alias twice. It succeeds exactly if
the route ends within the limit and the last alias points at something that is no alias; it reports
an alias as unresolved exactly if the route comes to it within the limit and no declaration has the
name that is its target; it reports a ring exactly if within the limit the route comes back to
itself, and what it reports is the part that goes round, from its lowest member; it is too long
exactly if the route has one alias more than the limit. There is no other ending. Two walks that
report rings with a name in common report the same. -/
theorem resolve_exact (hgraph : graph.Built) (hstart : start ∈ graph.declarations) (depth : Nat) :
    (start.isAlias = false → resolve graph depth start = .ok ⟨[], start⟩) ∧
    (start.isAlias →
      (∀ path target, resolve graph depth start = .ok ⟨path, target⟩ ↔
        ∃ last, graph.Route start path last ∧ path.length ≤ max 1 depth ∧
          graph.PointsAt last target ∧ target.isAlias = false) ∧
      (∀ name text, resolve graph depth start = .error (.unresolvedAlias name text) ↔
        ∃ path last, graph.Route start path last ∧ path.length ≤ max 1 depth ∧
          last.name = name ∧ last.target = some text ∧ graph.lookup text = none) ∧
      (∀ names, resolve graph depth start = .error (.cyclicAlias names) ↔
        ∃ tail next loop last members, graph.Route start (tail ++ next :: loop) last ∧
          (tail ++ next :: loop).length ≤ max 1 depth ∧ graph.PointsAt last next ∧
          members.Perm (next :: loop) ∧ graph.IsRing members ∧ names = members.map (·.name)) ∧
      (∀ name limit, resolve graph depth start = .error (.aliasChainTooLong name limit) ↔
        name = start.name ∧ limit = max 1 depth ∧
          ∃ path last, graph.Route start path last ∧ path.length = max 1 depth + 1) ∧
      ((∃ chain, resolve graph depth start = .ok chain) ∨
        (∃ name text, resolve graph depth start = .error (.unresolvedAlias name text)) ∨
        (∃ names, resolve graph depth start = .error (.cyclicAlias names)) ∨
        resolve graph depth start = .error (.aliasChainTooLong start.name (max 1 depth)))) ∧
    (∀ other otherDepth names otherNames,
      resolve graph depth start = .error (.cyclicAlias names) →
      resolve graph otherDepth other = .error (.cyclicAlias otherNames) →
      (∃ name ∈ names, name ∈ otherNames) → names = otherNames) := by
  have hwell := hgraph.wellFormed
  refine ⟨fun hother ↦ ?_, fun halias ↦ ⟨fun path target ↦ resolve_eq_ok_iff halias,
    fun name text ↦ ?_, fun names ↦ resolve_eq_cyclic_iff hwell halias,
    fun name limit ↦ resolve_eq_aliasChainTooLong_iff halias, ?_⟩, ?_⟩
  · rw [resolve, if_neg (by simp [hother])]
  · -- The last alias of the route has a target, as every alias of a built graph.
    have htarget {path : List Declaration} {last : Declaration}
        (route : graph.Route start path last) : last.target = some last.targetText := by
      have hsome := hwell.targets last (route.current_mem hstart)
      rw [route.current_isAlias] at hsome
      obtain ⟨text, htext⟩ := Option.isSome_iff_exists.1 hsome
      rw [Declaration.targetText, htext, Option.getD_some]
    rw [resolve_eq_unresolved_iff halias]
    constructor
    · rintro ⟨path, last, route, within, hname, rfl, missing⟩
      exact ⟨path, last, route, within, hname, htarget route, missing⟩
    · rintro ⟨path, last, route, within, hname, htext, missing⟩
      exact ⟨path, last, route, within, hname,
        Option.some.inj ((htarget route).symm.trans htext), missing⟩
  · -- Each way to end a walk gives one of the four results.
    have houtcome := outcome_resolve graph depth halias
    generalize resolve graph depth start = result at houtcome ⊢
    rcases houtcome with _ | _ | _ | _
    · exact .inr (.inl ⟨_, _, rfl⟩)
    · exact .inl ⟨_, rfl⟩
    · exact .inr (.inr (.inl ⟨_, rfl⟩))
    · exact .inr (.inr (.inr rfl))
  · intro other otherDepth names otherNames hone hother hcommon
    obtain ⟨members, hring, rfl⟩ := exists_ring_of_resolve_eq_cyclic hwell hone
    obtain ⟨others, hringOther, rfl⟩ := exists_ring_of_resolve_eq_cyclic hwell hother
    obtain ⟨name, hname, hnameOther⟩ := hcommon
    obtain ⟨one, hmem, rfl⟩ := List.mem_map.1 hname
    obtain ⟨same, hmemOther, hsame⟩ := List.mem_map.1 hnameOther
    -- A ring is told by any of its members, and a member by its name.
    obtain rfl : same = one := hwell.declaration_unique_of_name
      (hringOther.isCycle.mem_declarations (Cycle.mem_coe_iff.2 hmemOther))
      (hring.isCycle.mem_declarations (Cycle.mem_coe_iff.2 hmem)) hsame
    rw [hring.eq_of_mem hwell hringOther hmem hmemOther]

end Alias

/-- A loop of two aliases with a third one leading into it. -/
def Document.lasso : Document where
  modules := [⟨"core", []⟩]
  declarations :=
    [⟨"low", "alias", "core", none, some "high", []⟩,
     ⟨"high", "alias", "core", none, some "low", []⟩,
     ⟨"tail", "alias", "core", none, some "high", []⟩]

/-- The graph of the lasso. -/
def Document.lassoGraph : Graph where
  modules := [⟨⟨1⟩, "core", []⟩]
  declarations :=
    [⟨⟨1⟩, "low", .typeAlias, ⟨1⟩, none, some "high", []⟩,
     ⟨⟨2⟩, "high", .typeAlias, ⟨1⟩, none, some "low", []⟩,
     ⟨⟨3⟩, "tail", .typeAlias, ⟨1⟩, none, some "high", []⟩]

/-- With a limit of three the loop is found from outside, and reported from its lowest member; with
a limit of two the way to the last new alias is too long. -/
theorem Document.lassoGraph_resolves :
    let tail : Declaration := ⟨⟨3⟩, "tail", .typeAlias, ⟨1⟩, none, some "high", []⟩
    Alias.resolve lassoGraph 3 tail = .error (.cyclicAlias ["low", "high"]) ∧
      Alias.resolve lassoGraph 2 tail = .error (.aliasChainTooLong "tail" 2) := by
  intro tail
  let high : Declaration := ⟨⟨2⟩, "high", .typeAlias, ⟨1⟩, none, some "low", []⟩
  let low : Declaration := ⟨⟨1⟩, "low", .typeAlias, ⟨1⟩, none, some "high", []⟩
  have hbuilt : lassoGraph.Built :=
    built_of_toGraph (show lasso.toGraph = .ok lassoGraph from rfl)
  have htail : tail ∈ lassoGraph.declarations := by decide
  have hhigh : lassoGraph.PointsAt tail high :=
    show lassoGraph.directTarget? tail = some high by decide
  have hlow : lassoGraph.PointsAt high low :=
    show lassoGraph.directTarget? high = some low by decide
  have hback : lassoGraph.PointsAt low high :=
    show lassoGraph.directTarget? low = some high by decide
  have hroute : lassoGraph.Route tail [tail, high, low] low :=
    .onward (.onward (.here rfl) hhigh rfl (by decide)) hlow rfl (by decide)
  have hring : lassoGraph.IsRing [low, high] :=
    ⟨low, [high], rfl, by decide, by simp [hlow, hback], by decide⟩
  obtain ⟨-, hthree, -⟩ := Alias.resolve_exact hbuilt htail 3
  obtain ⟨-, htwo, -⟩ := Alias.resolve_exact hbuilt htail 2
  obtain ⟨-, -, hcyclic, -, -⟩ := hthree rfl
  obtain ⟨-, -, -, htooLong, -⟩ := htwo rfl
  exact ⟨(hcyclic _).2 ⟨[tail], high, [low], low, [low, high], hroute, by decide, hback,
    List.Perm.swap _ _ _, hring, rfl⟩, (htooLong _ _).2 ⟨rfl, rfl, _, _, hroute, rfl⟩⟩

end Exposure
