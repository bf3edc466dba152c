import Exposure.Alias.Chain
import Exposure.Proofs.Graph.Built
import Mathlib.Data.List.Cycle
import Mathlib.Data.List.TakeWhile

/-!
# Cycles of aliases

Every alias points at no more than one declaration (`Graph.PointsAt`), so a cycle is determined by
any of its members (`Graph.IsCycle.eq_of_mem`), and once in a cycle a walk does not leave it again
(`Graph.IsCycle.closed`).

A walk finds a cycle from where it came in. To say the same of a cycle wherever it is entered, it
is turned to start at its lowest identity: turning does not change the cycle
(`Alias.coe_fromLowest`), and what is the same cycle is turned into the same list
(`Alias.fromLowest_congr`).
-/

namespace Exposure

namespace Graph

/-- An alias points at the declaration that its target looks up. -/
def PointsAt (graph : Graph) (one other : Declaration) : Prop :=
  graph.directTarget? one = some other

/-- **A cycle of aliases**: distinct ones, each of which points at the next one round. -/
structure IsCycle (graph : Graph) (cycle : Cycle Declaration) : Prop where
  nonempty : cycle ≠ Cycle.nil
  nodup : cycle.Nodup
  chain : cycle.Chain graph.PointsAt

variable {graph : Graph} {one other next : Declaration}

/-! ### Pointing -/

theorem pointsAt_iff :
    graph.PointsAt one other ↔ one.isAlias ∧ graph.lookup one.targetText = some other := by
  rw [PointsAt, directTarget?, Option.ite_none_right_eq_some]

theorem PointsAt.isAlias (h : graph.PointsAt one other) : one.isAlias := (pointsAt_iff.1 h).1

theorem PointsAt.lookup_eq (h : graph.PointsAt one other) :
    graph.lookup one.targetText = some other := (pointsAt_iff.1 h).2

theorem PointsAt.mem (h : graph.PointsAt one other) : other ∈ graph.declarations :=
  List.mem_of_find?_eq_some h.lookup_eq

theorem PointsAt.unique (h : graph.PointsAt one other) (h' : graph.PointsAt one next) :
    other = next := Option.some.inj (h.symm.trans h')

/-- Between its ends a way that does not pass its last stop is determined. -/
theorem eq_of_isChain {first last : Declaration} {way others : List Declaration}
    (hway : (first :: (way ++ [last])).IsChain graph.PointsAt)
    (hothers : (first :: (others ++ [last])).IsChain graph.PointsAt)
    (hnew : last ∉ way) (hnew' : last ∉ others) : way = others := by
  induction way generalizing first others with
  | nil =>
    have hlast : graph.PointsAt first last := (List.isChain_cons_cons.1 hway).1
    rcases others with - | ⟨second, others⟩
    · rfl
    · have hsecond : graph.PointsAt first second := (List.isChain_cons_cons.1 hothers).1
      exact absurd (hlast.unique hsecond ▸ List.mem_cons_self) hnew'
  | cons second way ih =>
    obtain ⟨hsecond, hrest⟩ := List.isChain_cons_cons.1 hway
    rcases others with - | ⟨third, others⟩
    · have hlast : graph.PointsAt first last := (List.isChain_cons_cons.1 hothers).1
      exact absurd (hlast.unique hsecond ▸ List.mem_cons_self) hnew
    · obtain ⟨hthird, hrest'⟩ := List.isChain_cons_cons.1 hothers
      obtain rfl := hsecond.unique hthird
      rw [ih hrest hrest' (fun h ↦ hnew (List.mem_cons_of_mem _ h))
        fun h ↦ hnew' (List.mem_cons_of_mem _ h)]

/-! ### Round a cycle -/

/-- A cycle may be read from any of its members. -/
theorem exists_coe_cons_of_mem {α : Type} {cycle : Cycle α} {x : α} (h : x ∈ cycle) :
    ∃ rest : List α, cycle = (x :: rest : List α) := by
  induction cycle using Quotient.inductionOn with
  | h members =>
    obtain ⟨before, behind, rfl⟩ := List.append_of_mem (Cycle.mem_coe_iff.1 h)
    exact ⟨behind ++ before, Cycle.coe_eq_coe.2 List.isRotated_append⟩

namespace IsCycle

variable {cycle cycle' : Cycle Declaration}

/-- A member points at a member. -/
theorem exists_pointsAt (h : graph.IsCycle cycle) (hmem : one ∈ cycle) :
    ∃ other ∈ cycle, graph.PointsAt one other := by
  obtain ⟨rest, rfl⟩ := exists_coe_cons_of_mem hmem
  have hchain := (Cycle.chain_coe_cons _ _ _).1 h.chain
  rcases rest with - | ⟨second, rest⟩
  · exact ⟨one, hmem, (List.isChain_cons_cons.1 hchain).1⟩
  · exact ⟨second, Cycle.mem_coe_iff.2 (by simp), (List.isChain_cons_cons.1 hchain).1⟩

theorem isAlias (h : graph.IsCycle cycle) (hmem : one ∈ cycle) : one.isAlias := by
  obtain ⟨other, -, hother⟩ := h.exists_pointsAt hmem
  exact hother.isAlias

/-- There is no way out of a cycle. -/
theorem closed (h : graph.IsCycle cycle) (hmem : one ∈ cycle) (hnext : graph.PointsAt one next) :
    next ∈ cycle := by
  obtain ⟨other, hother, hpoints⟩ := h.exists_pointsAt hmem
  rwa [hnext.unique hpoints]

/-- The members are declarations of the graph: each is pointed at. -/
theorem mem_declarations (h : graph.IsCycle cycle) (hmem : one ∈ cycle) :
    one ∈ graph.declarations := by
  obtain ⟨rest, rfl⟩ := exists_coe_cons_of_mem hmem
  have hchain := (Cycle.chain_ne_nil _ (List.cons_ne_nil one rest)).1 h.chain
  exact (List.isChain_cons_cons.1 hchain).1.mem

/-- The members of a cycle are told apart by their identities. -/
theorem nodup_ids {members : List Declaration} (h : graph.IsCycle members)
    (hgraph : graph.WellFormed) : (members.map (·.id)).Nodup :=
  (Cycle.nodup_coe_iff.1 h.nodup).map_on fun _ ha _ hb hid ↦ hgraph.declaration_unique
    (h.mem_declarations (Cycle.mem_coe_iff.2 ha)) (h.mem_declarations (Cycle.mem_coe_iff.2 hb)) hid

/-- **Two cycles with a member in common are the same.** -/
theorem eq_of_mem (h : graph.IsCycle cycle) (h' : graph.IsCycle cycle') (hmem : one ∈ cycle)
    (hmem' : one ∈ cycle') : cycle = cycle' := by
  obtain ⟨rest, rfl⟩ := exists_coe_cons_of_mem hmem
  obtain ⟨rest', rfl⟩ := exists_coe_cons_of_mem hmem'
  have hnew : one ∉ rest := (List.nodup_cons.1 (Cycle.nodup_coe_iff.1 h.nodup)).1
  have hnew' : one ∉ rest' := (List.nodup_cons.1 (Cycle.nodup_coe_iff.1 h'.nodup)).1
  rw [eq_of_isChain ((Cycle.chain_coe_cons _ _ _).1 h.chain)
    ((Cycle.chain_coe_cons _ _ _).1 h'.chain) hnew hnew']

/-- Declarations of one graph that bear the same names in turn are the same cycle. -/
theorem eq_of_map_name (hgraph : graph.WellFormed) (h : graph.IsCycle cycle)
    (h' : graph.IsCycle cycle') (hnames : cycle.map (·.name) = cycle'.map (·.name)) :
    cycle = cycle' := by
  induction cycle using Quotient.inductionOn with
  | h members =>
    rcases members with - | ⟨first, rest⟩
    · exact absurd Cycle.coe_nil h.nonempty
    · have hfirst : first ∈ ((first :: rest : List Declaration) : Cycle Declaration) :=
        Cycle.mem_coe_iff.2 List.mem_cons_self
      have hname : first.name ∈ cycle'.map (·.name) :=
        hnames ▸ Cycle.mem_map.2 ⟨first, hfirst, rfl⟩
      obtain ⟨same, hsame, hsameName⟩ := Cycle.mem_map.1 hname
      obtain rfl : same = first := hgraph.declaration_unique_of_name
        (h'.mem_declarations hsame) (h.mem_declarations hfirst) hsameName
      exact h.eq_of_mem h' hfirst hsame

end IsCycle
end Graph

/-! ### Turning a cycle -/

/-- A list without repetitions is determined by its first member and the cycle it makes. -/
theorem eq_of_isRotated_cons {α : Type} {x : α} {xs ys : List α}
    (h : (x :: xs).IsRotated (x :: ys)) (hnodup : (x :: xs).Nodup) : xs = ys := by
  obtain ⟨n, hn, hrotate⟩ := List.isRotated_iff_mod.1 h
  rw [List.rotate_eq_drop_append_take hn] at hrotate
  rcases n with - | n
  · simpa using hrotate
  · rw [List.drop_succ_cons, List.take_succ_cons] at hrotate
    -- The list now starts with what was behind the first member, if anything is left of it.
    rcases hdrop : xs.drop n with - | ⟨y, rest⟩
    · have hle : xs.length ≤ n := List.drop_eq_nil_iff.1 hdrop
      rw [hdrop, List.nil_append, List.take_of_length_le hle] at hrotate
      exact (List.cons.inj hrotate).2
    · rw [hdrop, List.cons_append] at hrotate
      have hy : y ∈ xs := List.mem_of_mem_drop (hdrop ▸ List.mem_cons_self)
      exact absurd ((List.cons.inj hrotate).1 ▸ hy) (List.nodup_cons.1 hnodup).1

/-- Where identities tell the members apart, a cycle has one turn that starts at the lowest. -/
theorem eq_of_isRotated_of_lowest {first first' : Declaration} {rest rest' : List Declaration}
    (hids : ((first :: rest).map (·.id)).Nodup)
    (h : (first :: rest).IsRotated (first' :: rest'))
    (hle : ∀ one ∈ first :: rest, first.id.number ≤ one.id.number)
    (hle' : ∀ one ∈ first' :: rest', first'.id.number ≤ one.id.number) :
    first :: rest = first' :: rest' := by
  have hfirst' : first' ∈ first :: rest := h.mem_iff.2 List.mem_cons_self
  have hnumber : first.id.number = first'.id.number :=
    le_antisymm (hle first' hfirst') (hle' first (h.mem_iff.1 List.mem_cons_self))
  obtain rfl : first = first' :=
    List.inj_on_of_nodup_map hids List.mem_cons_self hfirst' (congrArg DeclId.mk hnumber)
  rw [eq_of_isRotated_cons h (List.Nodup.of_map _ hids)]

namespace Alias

/-- A cycle that has a member is turned to start at the lowest identity. -/
theorem exists_fromLowest_eq_cons {members : List Declaration} (hne : members ≠ []) :
    ∃ first rest, fromLowest members = first :: rest ∧
      ∀ one ∈ members, first.id.number ≤ one.id.number := by
  have hsome : (members.map (·.id.number)).min? ≠ none := by
    rw [ne_eq, List.min?_eq_none_iff, List.map_eq_nil_iff]
    exact hne
  obtain ⟨lowest, hlowest⟩ := Option.ne_none_iff_exists'.1 hsome
  obtain ⟨hattained, hle⟩ := List.min?_eq_some_iff.1 hlowest
  obtain ⟨one, hone, honeLowest⟩ := List.mem_map.1 hattained
  -- Something of the list is left when all in front of the lowest is dropped.
  rcases hdrop : members.dropWhile (fun one ↦ one.id.number ≠ lowest) with - | ⟨first, rest⟩
  · have hall := List.dropWhile_eq_nil_iff.1 hdrop one hone
    simp [honeLowest] at hall
  · have hfirst : first.id.number = lowest := by
      have hhead :=
        List.head?_dropWhile_not (fun one : Declaration ↦ one.id.number ≠ lowest) members
      rw [hdrop] at hhead
      simpa using hhead
    refine ⟨first, rest ++ members.takeWhile fun one ↦ one.id.number ≠ lowest, ?_,
      fun one hone ↦ hfirst ▸ hle _ (List.mem_map_of_mem hone)⟩
    rw [fromLowest, hlowest]
    dsimp only
    rw [hdrop, List.cons_append]

/-- **Turning does not change the cycle.** -/
theorem coe_fromLowest (members : List Declaration) :
    (fromLowest members : Cycle Declaration) = members := by
  rw [fromLowest]
  split
  · rename_i hnone
    rw [List.map_eq_nil_iff.1 (List.min?_eq_none_iff.1 hnone)]
  · rename_i lowest _
    refine Cycle.coe_eq_coe.2 (List.isRotated_append.trans ?_)
    rw [List.takeWhile_append_dropWhile]

/-- A cycle that is turned has the same members, in the same order round. -/
theorem isRotated_fromLowest (members : List Declaration) :
    (fromLowest members).IsRotated members :=
  Cycle.coe_eq_coe.1 (coe_fromLowest members)

/-- **The same cycle is turned into the same list**, where identities tell its members apart. -/
theorem fromLowest_congr {members members' : List Declaration}
    (hids : (members.map (·.id)).Nodup) (h : (members : Cycle Declaration) = members') :
    fromLowest members = fromLowest members' := by
  have hrotated := Cycle.coe_eq_coe.1 h
  by_cases hne : members = []
  · subst hne
    rw [List.isRotated_nil_iff'.1 hrotated]
  · have hne' : members' ≠ [] := by
      rintro rfl
      exact hne (List.isRotated_nil_iff.1 hrotated)
    obtain ⟨first, rest, heq, hle⟩ := exists_fromLowest_eq_cons hne
    obtain ⟨first', rest', heq', hle'⟩ := exists_fromLowest_eq_cons hne'
    have hsame := isRotated_fromLowest members
    have hsame' := isRotated_fromLowest members'
    rw [heq] at hsame ⊢
    rw [heq'] at hsame' ⊢
    exact eq_of_isRotated_of_lowest ((hsame.perm.map _).nodup_iff.2 hids)
      ((hsame.trans hrotated).trans hsame'.symm) (fun one hone ↦ hle one (hsame.mem_iff.1 hone))
      fun one hone ↦ hle' one (hsame'.mem_iff.1 hone)

end Alias
end Exposure
