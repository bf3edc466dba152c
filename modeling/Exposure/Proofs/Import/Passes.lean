import Exposure.Import.Cycle
import Mathlib.Data.List.Nodup
import Mathlib.Data.List.Pairwise
import Mathlib.Logic.Relation

/-!
# Two passes over a graph

Two nodes are **joined** if each leads to the other. This file says why the two passes find the
nodes that are joined, whatever the graph.

The first pass has a stack of nodes under way, and what it keeps true is `Underway`: every node is
fresh, under way or done; a node under way leads to those above it; and a node that is done and
leads to one under way is joined with one under way. So when a node is done, whatever was done
before it and leads to it is joined with a node that was not done before it. That is all that the
second pass has to know of the order (`LastFirst`, `lastFirst_finishOrder`).

The second pass takes up the node that was done last among those that are in no group yet. Any
other of these that leads to it is joined with it, so what it finds backwards are the nodes that
are joined with it (`mem_explore_iff_joined`). In the end every node is in one group
(`gathered_gather`).
-/

namespace Exposure.Import

open Relation (ReflTransGen)

variable {α : Type} {next : α → List α} {a b c : α}

/-- A node leads to another along what is listed. -/
def LeadsTo (next : α → List α) : α → α → Prop := ReflTransGen fun a b ↦ b ∈ next a

/-- **Two nodes are joined** if each leads to the other. -/
def Joined (next : α → List α) (a b : α) : Prop := LeadsTo next a b ∧ LeadsTo next b a

theorem Joined.symm (h : Joined next a b) : Joined next b a := ⟨h.2, h.1⟩

theorem Joined.trans (h : Joined next a b) (h' : Joined next b c) : Joined next a c :=
  ⟨h.1.trans h'.1, h'.2.trans h.2⟩

/-- What leads out of a graph is not in it. -/
theorem LeadsTo.mem {nodes : List α} (hclosed : ∀ x ∈ nodes, next x ⊆ nodes)
    (h : LeadsTo next a b) (ha : a ∈ nodes) : b ∈ nodes := by
  induction h with
  | refl => exact ha
  | tail _ hlists ih => exact hclosed _ ih hlists

/-- **An order in which a node of every group comes first**: whatever comes later and leads to a
node is joined with one that does not come later. -/
inductive LastFirst (next : α → List α) : List α → Prop
  | nil : LastFirst next []
  | cons {node : α} {later : List α} (rest : LastFirst next later)
      (ahead : ∀ x ∈ later, LeadsTo next x node → ∃ other ∉ later, Joined next x other) :
      LastFirst next (node :: later)

variable [DecidableEq α] {nodes : List α}

/-! ### The first pass -/

section First

variable {progress : Progress α} {stack : List (Frame α)}

/-- **How far a depth-first pass has come.** -/
structure Underway (next : α → List α) (nodes : List α) (progress : Progress α)
    (stack : List (Frame α)) : Prop where
  /-- Every node is fresh, under way or done. -/
  split : nodes.Perm (progress.fresh ++ (stack.map (·.node) ++ progress.finished))
  /-- What is ahead of a node is listed by it. -/
  listed : ∀ frame ∈ stack, frame.ahead ⊆ next frame.node
  /-- What a node under way lists is ahead or no longer fresh. -/
  ahead : ∀ frame ∈ stack, ∀ y ∈ next frame.node, y ∈ frame.ahead ∨ y ∉ progress.fresh
  /-- What a node that is done lists is not fresh. -/
  behind : ∀ x ∈ progress.finished, ∀ y ∈ next x, y ∉ progress.fresh
  /-- A node under way leads to those above it. -/
  linked : (stack.map (·.node)).Pairwise fun upper lower ↦ LeadsTo next lower upper
  /-- What is done and leads to a node under way is joined with one under way. -/
  tied : ∀ x ∈ progress.finished, ∀ y ∈ stack.map (·.node), LeadsTo next x y →
    ∃ other ∈ stack.map (·.node), Joined next x other
  ordered : LastFirst next progress.finished

omit [DecidableEq α] in
/-- Before the first pass. -/
theorem underway_start : Underway next nodes ⟨nodes, []⟩ [] where
  split := by simp
  listed := by simp
  ahead := by simp
  behind := by simp
  linked := List.Pairwise.nil
  tied := by simp
  ordered := .nil

namespace Underway

omit [DecidableEq α] in
/-- **Only through a node under way** does what is done lead to what is not. -/
theorem exists_under_way (h : Underway next nodes progress stack)
    (hclosed : ∀ x ∈ nodes, next x ⊆ nodes) (hleads : LeadsTo next a b)
    (ha : a ∈ progress.finished) (hb : b ∉ progress.finished) :
    ∃ y ∈ stack.map (·.node), LeadsTo next a y := by
  induction hleads using ReflTransGen.head_induction_on with
  | refl => exact absurd ha hb
  | @head x y hlists _ ih =>
    have hx : x ∈ nodes := h.split.mem_iff.2 (by simp [ha])
    have hy := h.split.mem_iff.1 (hclosed x hx hlists)
    rw [List.mem_append, List.mem_append] at hy
    rcases hy with hfresh | hunder | hfinished
    · exact absurd hfresh (h.behind x ha y hlists)
    · exact ⟨y, hunder, .single hlists⟩
    · obtain ⟨z, hz, hyz⟩ := ih hfinished
      exact ⟨z, hz, .head hlists hyz⟩

omit [DecidableEq α] in
/-- The parts of the nodes have nothing in common. -/
theorem nodup_split (h : Underway next nodes progress stack) (hnodes : nodes.Nodup) :
    (progress.fresh ++ (stack.map (·.node) ++ progress.finished)).Nodup :=
  h.split.nodup_iff.1 hnodes

/-- A node that has been entered is fresh no longer. -/
theorem not_mem_erase (h : Underway next nodes progress stack) (hnodes : nodes.Nodup) (x : α) :
    x ∉ progress.fresh.erase x :=
  (List.nodup_append.1 (h.nodup_split hnodes)).1.not_mem_erase

omit [DecidableEq α] in
/-- **A node with nothing ahead is done.** -/
theorem finish {node : α} {below : List (Frame α)} (hnodes : nodes.Nodup)
    (h : Underway next nodes progress (⟨node, []⟩ :: below)) :
    Underway next nodes { progress with finished := node :: progress.finished } below := by
  obtain ⟨hahead, haheads⟩ := List.forall_mem_cons.1 h.ahead
  obtain ⟨-, hlisted⟩ := List.forall_mem_cons.1 h.listed
  have hlinked := h.linked
  rw [List.map_cons, List.pairwise_cons] at hlinked
  obtain ⟨htop, hlinked⟩ := hlinked
  refine ⟨?_, hlisted, haheads, ?_, hlinked, ?_, .cons h.ordered ?_⟩
  · refine h.split.trans (List.Perm.append_left _ ?_)
    exact List.perm_middle.symm
  · exact List.forall_mem_cons.2
      ⟨fun y hy ↦ (hahead y hy).resolve_left List.not_mem_nil, h.behind⟩
  · -- What leads to a node below leads there still; what was tied to the top is tied to that node.
    intro x hx y hy hleads
    rcases List.mem_cons.1 hx with rfl | hx
    · exact ⟨y, hy, hleads, htop y hy⟩
    · obtain ⟨other, hother, hjoined⟩ := h.tied x hx y (List.mem_cons_of_mem _ hy) hleads
      rcases List.mem_cons.1 hother with rfl | hother
      · exact ⟨y, hy, hleads, (htop y hy).trans hjoined.2⟩
      · exact ⟨other, hother, hjoined⟩
  · intro x hx hleads
    obtain ⟨other, hother, hjoined⟩ := h.tied x hx node List.mem_cons_self hleads
    obtain ⟨-, hparts, -⟩ := List.nodup_append.1 (h.nodup_split hnodes)
    obtain ⟨-, -, hapart⟩ := List.nodup_append.1 hparts
    exact ⟨other, fun hfinished ↦ hapart other hother other hfinished rfl, hjoined⟩

/-- **A fresh node is entered** from a stack of nodes that all lead to it. -/
theorem enter {target : α} (hclosed : ∀ x ∈ nodes, next x ⊆ nodes) (hnodes : nodes.Nodup)
    (h : Underway next nodes progress stack) (hfresh : target ∈ progress.fresh)
    (hleads : ∀ x ∈ stack.map (·.node), LeadsTo next x target) :
    Underway next nodes { progress with fresh := progress.fresh.erase target }
      (⟨target, next target⟩ :: stack) := by
  have hstale {y : α} (hy : y ∉ progress.fresh) : y ∉ progress.fresh.erase target :=
    fun hmem ↦ hy (List.mem_of_mem_erase hmem)
  refine ⟨?_, ?_, ?_, ?_, ?_, ?_, h.ordered⟩
  · refine h.split.trans ?_
    refine ((List.perm_cons_erase hfresh).append_right _).trans ?_
    exact List.perm_middle.symm
  · exact List.forall_mem_cons.2 ⟨List.Subset.refl _, h.listed⟩
  · exact List.forall_mem_cons.2 ⟨fun y hy ↦ .inl hy,
      fun frame hframe y hy ↦ (h.ahead frame hframe y hy).imp_right hstale⟩
  · exact fun x hx y hy ↦ hstale (h.behind x hx y hy)
  · exact List.pairwise_cons.2 ⟨hleads, h.linked⟩
  · -- What is done and leads to the new node leads to one that was under way before.
    intro x hx y hy hxy
    have hunder : ∃ y ∈ stack.map (·.node), LeadsTo next x y := by
      rcases List.mem_cons.1 hy with rfl | hy
      · refine h.exists_under_way hclosed hxy hx fun hfinished ↦ ?_
        obtain ⟨-, -, hapart⟩ := List.nodup_append.1 (h.nodup_split hnodes)
        exact hapart _ hfresh _ (List.mem_append_right _ hfinished) rfl
      · exact ⟨y, hy, hxy⟩
    obtain ⟨z, hz, hxz⟩ := hunder
    obtain ⟨other, hother, hjoined⟩ := h.tied x hx z hz hxz
    exact ⟨other, List.mem_cons_of_mem _ hother, hjoined⟩

omit [DecidableEq α] in
/-- A node that is not fresh can be passed over, wherever it is ahead. -/
theorem pass {node target : α} {ahead : List α} (upper : List (Frame α)) {below : List (Frame α)}
    (h : Underway next nodes progress (upper ++ ⟨node, target :: ahead⟩ :: below))
    (hstale : target ∉ progress.fresh) :
    Underway next nodes progress (upper ++ ⟨node, ahead⟩ :: below) := by
  have hsame : (upper ++ ⟨node, ahead⟩ :: below).map (·.node) =
      (upper ++ ⟨node, target :: ahead⟩ :: below).map (·.node) := by simp
  obtain ⟨hlistedUpper, hlisted⟩ := List.forall_mem_append.1 h.listed
  obtain ⟨hlistedNode, hlistedBelow⟩ := List.forall_mem_cons.1 hlisted
  obtain ⟨haheadUpper, hahead⟩ := List.forall_mem_append.1 h.ahead
  obtain ⟨haheadNode, haheadBelow⟩ := List.forall_mem_cons.1 hahead
  refine ⟨hsame ▸ h.split, ?_, ?_, h.behind, hsame ▸ h.linked, hsame ▸ h.tied, h.ordered⟩
  · exact List.forall_mem_append.2 ⟨hlistedUpper, List.forall_mem_cons.2
      ⟨(List.cons_subset.1 hlistedNode).2, hlistedBelow⟩⟩
  · refine List.forall_mem_append.2 ⟨haheadUpper, List.forall_mem_cons.2
      ⟨fun y hy ↦ ?_, haheadBelow⟩⟩
    rcases haheadNode y hy with hy | hy
    · rcases List.mem_cons.1 hy with rfl | hy
      · exact .inr hstale
      · exact .inl hy
    · exact .inr hy

/-- **What is under way gets done**, and what was not fresh is not fresh in the end. The induction
follows the pass. -/
theorem deepen (hclosed : ∀ x ∈ nodes, next x ⊆ nodes) (hnodes : nodes.Nodup)
    (h : Underway next nodes progress stack) :
    Underway next nodes (Import.deepen next progress stack) [] ∧
      (Import.deepen next progress stack).fresh ⊆ progress.fresh := by
  fun_induction Import.deepen next progress stack with
  | case1 progress => exact ⟨h, List.Subset.refl _⟩
  | case2 progress node below ih => exact ih (h.finish hnodes)
  | case3 progress node target ahead below hfresh ih =>
    have hnode : target ∈ next node := h.listed _ List.mem_cons_self List.mem_cons_self
    have hlinked := h.linked
    rw [List.map_cons, List.pairwise_cons] at hlinked
    have hleads : ∀ x ∈ (⟨node, target :: ahead⟩ :: below : List (Frame α)).map (·.node),
        LeadsTo next x target :=
      List.forall_mem_cons.2 ⟨.single hnode, fun x hx ↦ (hlinked.1 x hx).tail hnode⟩
    have hentered := h.enter hclosed hnodes hfresh hleads
    obtain ⟨hdone, hsubset⟩ :=
      ih (hentered.pass [⟨target, next target⟩] (h.not_mem_erase hnodes target))
    exact ⟨hdone, fun x hx ↦ List.mem_of_mem_erase (hsubset hx)⟩
  | case4 progress node target ahead below hstale ih =>
    exact ih (h.pass [] hstale)

/-- A node that is entered from outside is not fresh in the end. -/
theorem enter_root (hclosed : ∀ x ∈ nodes, next x ⊆ nodes) (hnodes : nodes.Nodup)
    (h : Underway next nodes progress []) (root : α) :
    Underway next nodes (Import.enter next progress root) [] ∧
      (Import.enter next progress root).fresh ⊆ progress.fresh ∧
      root ∉ (Import.enter next progress root).fresh := by
  rw [Import.enter]
  split
  · rename_i hfresh
    obtain ⟨hdone, hsubset⟩ := (h.enter hclosed hnodes hfresh (by simp)).deepen hclosed hnodes
    exact ⟨hdone, fun x hx ↦ List.mem_of_mem_erase (hsubset hx),
      fun hmem ↦ h.not_mem_erase hnodes root (hsubset hmem)⟩
  · rename_i hstale
    exact ⟨h, List.Subset.refl _, hstale⟩

/-- After the roots have been entered none of them is fresh. -/
theorem foldl_enter (hclosed : ∀ x ∈ nodes, next x ⊆ nodes) (hnodes : nodes.Nodup)
    (h : Underway next nodes progress []) (roots : List α) :
    Underway next nodes (roots.foldl (Import.enter next) progress) [] ∧
      (roots.foldl (Import.enter next) progress).fresh ⊆ progress.fresh ∧
      ∀ root ∈ roots, root ∉ (roots.foldl (Import.enter next) progress).fresh := by
  induction roots generalizing progress with
  | nil => exact ⟨h, List.Subset.refl _, by simp⟩
  | cons root roots ih =>
    obtain ⟨hentered, hsubset, hgone⟩ := h.enter_root hclosed hnodes root
    obtain ⟨hdone, hsubset', hothers⟩ := ih hentered
    exact ⟨hdone, fun x hx ↦ hsubset (hsubset' hx),
      List.forall_mem_cons.2 ⟨fun hmem ↦ hgone (hsubset' hmem), hothers⟩⟩

end Underway

variable (hclosed : ∀ x ∈ nodes, next x ⊆ nodes) (hnodes : nodes.Nodup)
include hclosed hnodes

/-- **The first pass is done with every node**, and with one of every group last. -/
theorem lastFirst_finishOrder :
    (finishOrder next nodes).Perm nodes ∧ LastFirst next (finishOrder next nodes) := by
  obtain ⟨hdone, hsubset, hgone⟩ := underway_start.foldl_enter hclosed hnodes nodes
  have hempty : (nodes.foldl (enter next) ⟨nodes, []⟩).fresh = [] :=
    List.eq_nil_iff_forall_not_mem.2 fun x hx ↦ hgone x (hsubset hx) hx
  have hsplit := hdone.split
  rw [hempty] at hsplit
  exact ⟨hsplit.symm, hdone.ordered⟩

end First

/-! ### The second pass -/

section Second

variable {fresh todo reached : List α}

/-- **A walk is sound**: what holds wherever it starts, and of what is listed where it holds, holds
of whatever is reached. -/
theorem forall_mem_explore {P : α → Prop} (hnext : ∀ x, P x → ∀ y ∈ next x, P y)
    (htodo : ∀ x ∈ todo, P x) (hreached : ∀ x ∈ reached, P x) :
    ∀ x ∈ explore next fresh todo reached, P x := by
  fun_induction explore next fresh todo reached with
  | case1 fresh reached => exact hreached
  | case2 fresh reached node rest hfresh ih =>
    obtain ⟨hnode, hrest⟩ := List.forall_mem_cons.1 htodo
    exact ih (List.forall_mem_append.2 ⟨hnext node hnode, hrest⟩)
      (List.forall_mem_cons.2 ⟨hnode, hreached⟩)
  | case3 fresh reached node rest hstale ih =>
    exact ih (List.forall_mem_cons.1 htodo).2 hreached

/-- What has been reached stays reached. -/
theorem subset_explore : reached ⊆ explore next fresh todo reached := by
  fun_induction explore next fresh todo reached with
  | case1 fresh reached => exact fun x hx ↦ hx
  | case2 fresh reached node rest hfresh ih => exact fun x hx ↦ ih (List.mem_cons_of_mem node hx)
  | case3 fresh reached node rest hstale ih => exact ih

/-- Only fresh nodes are reached, each once. -/
theorem nodup_explore (h : (fresh ++ reached).Nodup) :
    (explore next fresh todo reached).Nodup ∧
      explore next fresh todo reached ⊆ fresh ++ reached := by
  fun_induction explore next fresh todo reached with
  | case1 fresh reached => exact ⟨(List.nodup_append.1 h).2.1, List.subset_append_right _ _⟩
  | case2 fresh reached node rest hfresh ih =>
    have hperm : (fresh ++ reached).Perm (fresh.erase node ++ node :: reached) :=
      ((List.perm_cons_erase hfresh).append_right _).trans List.perm_middle.symm
    obtain ⟨hnodup, hsubset⟩ := ih (hperm.nodup_iff.1 h)
    exact ⟨hnodup, fun x hx ↦ hperm.mem_iff.2 (hsubset hx)⟩
  | case3 fresh reached node rest hstale ih => exact ih h

/-- **The frontier of a walk**: every node is fresh or has been reached, and what has been reached
lists only nodes that have been reached or are still to be visited. -/
structure Frontier (next : α → List α) (nodes fresh todo reached : List α) : Prop where
  met : ∀ x ∈ nodes, x ∈ fresh ∨ x ∈ reached
  ahead : ∀ x ∈ reached, ∀ y ∈ next x, y ∈ nodes → y ∈ reached ∨ y ∈ todo

namespace Frontier

variable {rest : List α} {node : α}

/-- A visit keeps the frontier: what the visited node lists is to be visited next. -/
theorem visit (h : Frontier next nodes fresh (node :: rest) reached) :
    Frontier next nodes (fresh.erase node) (next node ++ rest) (node :: reached) := by
  refine ⟨fun x hx ↦ ?_, fun x hx y hy hnode ↦ ?_⟩
  · by_cases hxnode : x = node
    · exact .inr (hxnode ▸ List.mem_cons_self)
    · exact (h.met x hx).imp (List.mem_erase_of_ne hxnode).2 (List.mem_cons_of_mem _)
  · rcases List.mem_cons.1 hx with rfl | hx
    · exact .inr (List.mem_append_left _ hy)
    · rcases h.ahead x hx y hy hnode with hreached | htodo
      · exact .inl (List.mem_cons_of_mem _ hreached)
      · rcases List.mem_cons.1 htodo with rfl | hrest
        · exact .inl List.mem_cons_self
        · exact .inr (List.mem_append_right _ hrest)

omit [DecidableEq α] in
/-- A node that is not fresh can be passed over, for it has been reached. -/
theorem skip (h : Frontier next nodes fresh (node :: rest) reached) (hstale : node ∉ fresh) :
    Frontier next nodes fresh rest reached := by
  refine ⟨h.met, fun x hx y hy hnode ↦ ?_⟩
  rcases h.ahead x hx y hy hnode with hreached | htodo
  · exact .inl hreached
  · rcases List.mem_cons.1 htodo with rfl | hrest
    · exact .inl ((h.met y hnode).resolve_left hstale)
    · exact .inr hrest

/-- **A walk is complete**: in the end nothing is ahead. -/
theorem exists_explore (h : Frontier next nodes fresh todo reached) :
    ∃ left, Frontier next nodes left [] (explore next fresh todo reached) := by
  fun_induction explore next fresh todo reached with
  | case1 fresh reached => exact ⟨fresh, h⟩
  | case2 fresh reached node rest hfresh ih => exact ih h.visit
  | case3 fresh reached node rest hstale ih => exact ih (h.skip hstale)

end Frontier

/-- Nodes that are in no group yet: with a node all those that are joined with it. -/
def Whole (next : α → List α) (fresh : List α) : Prop :=
  ∀ x ∈ fresh, ∀ y, Joined next x y → y ∈ fresh

/-- **The groups of some nodes**, each node in one group with all that are joined with it. -/
structure Gathered (next : α → List α) (fresh : List α) (found : List (List α)) : Prop where
  joined : ∀ group ∈ found, ∃ root ∈ fresh, ∀ x, x ∈ group ↔ Joined next root x
  nodup : ∀ group ∈ found, group.Nodup
  whole : ∀ x ∈ fresh, ∃ group ∈ found, x ∈ group
  disjoint : found.Pairwise List.Disjoint

section Group

variable {root : α} {found : List α} (hfound : ∀ x, x ∈ found ↔ Joined next root x)
include hfound

/-- What is left without a group is fresh and not joined with the group. -/
theorem mem_filter_not_mem_group {x : α} :
    x ∈ fresh.filter (· ∉ found) ↔ x ∈ fresh ∧ ¬ Joined next root x := by
  rw [List.mem_filter, decide_eq_true_iff, hfound]

/-- Without a group the rest is whole. -/
theorem Whole.filter (h : Whole next fresh) : Whole next (fresh.filter (· ∉ found)) := by
  intro x hx y hxy
  obtain ⟨hx, hapart⟩ := (mem_filter_not_mem_group hfound).1 hx
  exact (mem_filter_not_mem_group hfound).2
    ⟨h x hx y hxy, fun hjoined ↦ hapart (hjoined.trans hxy.symm)⟩

/-- A group and the groups of the rest are the groups of all. -/
theorem Gathered.cons {groups : List (List α)} (hroot : root ∈ fresh) (hnodup : found.Nodup)
    (h : Gathered next (fresh.filter (· ∉ found)) groups) :
    Gathered next fresh (found :: groups) := by
  have hleft {x : α} :
      x ∈ fresh.filter (· ∉ found) ↔ x ∈ fresh ∧ ¬ Joined next root x :=
    mem_filter_not_mem_group hfound
  refine ⟨List.forall_mem_cons.2 ⟨⟨root, hroot, hfound⟩, fun group hmem ↦ ?_⟩,
    List.forall_mem_cons.2 ⟨hnodup, h.nodup⟩, fun x hx ↦ ?_,
    List.pairwise_cons.2 ⟨fun group hmem x hx hxgroup ↦ ?_, h.disjoint⟩⟩
  · obtain ⟨other, hother, hjoined⟩ := h.joined group hmem
    exact ⟨other, (hleft.1 hother).1, hjoined⟩
  · by_cases hjoined : Joined next root x
    · exact ⟨found, List.mem_cons_self, (hfound x).2 hjoined⟩
    · obtain ⟨group, hmem, hxgroup⟩ := h.whole x (hleft.2 ⟨hx, hjoined⟩)
      exact ⟨group, List.mem_cons_of_mem _ hmem, hxgroup⟩
  · -- Another group has a root of its own among the rest.
    obtain ⟨other, hother, hjoined⟩ := h.joined group hmem
    exact (hleft.1 hother).2 (((hfound x).1 hx).trans ((hjoined x).1 hxgroup).symm)

end Group

variable {prev : α → List α} (hprev : ∀ x y, y ∈ prev x ↔ x ∈ next y)
include hprev

/-- **Backwards from a node** is found what is joined with it, if no other fresh node leads to it.
The frontier is that of the fresh nodes alone. -/
theorem mem_explore_iff_joined {root : α} (hnodup : fresh.Nodup) (hwhole : Whole next fresh)
    (hroot : root ∈ fresh) (hties : ∀ x ∈ fresh, LeadsTo next x root → Joined next x root) :
    b ∈ explore prev fresh [root] [] ↔ Joined next root b := by
  constructor
  · intro hb
    have hfresh : b ∈ fresh := by
      simpa using (nodup_explore (by simpa using hnodup)).2 hb
    have hleads : LeadsTo next b root :=
      forall_mem_explore (P := fun x ↦ LeadsTo next x root)
        (fun x hx y hy ↦ .head ((hprev x y).1 hy) hx) (List.forall_mem_singleton.2 .refl)
        (by simp) b hb
    exact (hties b hfresh hleads).symm
  · rintro ⟨hto, hfrom⟩
    have hstart : Frontier prev fresh fresh [root] [] := ⟨fun x hx ↦ .inl hx, by simp⟩
    have hself : root ∈ explore prev fresh [root] [] := by
      rw [explore, if_pos hroot]
      exact subset_explore List.mem_cons_self
    obtain ⟨left, hend⟩ := hstart.exists_explore
    -- The way back to the root goes through nodes that are joined with it.
    induction hfrom using ReflTransGen.head_induction_on with
    | refl => exact hself
    | @head x y hlists hrest ih =>
      have hy : y ∈ explore prev fresh [root] [] := ih (hto.tail hlists)
      have hx : x ∈ fresh := hwhole root hroot x ⟨hto, .head hlists hrest⟩
      exact (hend.ahead y hy x ((hprev y x).2 hlists) hx).resolve_right List.not_mem_nil

/-- **The second pass finds the groups**, by induction on the nodes that it takes up. -/
theorem gathered_gather {order : List α} (horder : LastFirst next order) (hnodup : fresh.Nodup)
    (hwhole : Whole next fresh) (hsubset : fresh ⊆ order) :
    Gathered next fresh (gather prev fresh order) := by
  induction horder generalizing fresh with
  | nil =>
    obtain rfl := List.subset_nil.1 hsubset
    exact ⟨by simp [gather], by simp [gather], by simp, List.Pairwise.nil⟩
  | @cons root later rest ahead ih =>
    rw [gather]
    by_cases hroot : root ∈ fresh
    · rw [if_pos hroot]
      have hties : ∀ x ∈ fresh, LeadsTo next x root → Joined next x root := by
        intro x hx hleads
        rcases List.mem_cons.1 (hsubset hx) with rfl | hlater
        · exact ⟨.refl, .refl⟩
        · obtain ⟨other, hother, hjoined⟩ := ahead x hlater hleads
          rcases List.mem_cons.1 (hsubset (hwhole x hx other hjoined)) with rfl | hmem
          · exact hjoined
          · exact absurd hmem hother
      have hfound (x : α) : x ∈ explore prev fresh [root] [] ↔ Joined next root x :=
        mem_explore_iff_joined hprev hnodup hwhole hroot hties
      refine .cons hfound hroot (nodup_explore (by simpa using hnodup)).1
        (ih (hnodup.filter _) (hwhole.filter hfound) fun x hx ↦ ?_)
      -- The root is in its group, so the rest comes later.
      obtain ⟨hx, hapart⟩ := (mem_filter_not_mem_group hfound).1 hx
      rcases List.mem_cons.1 (hsubset hx) with rfl | hlater
      · exact absurd ⟨.refl, .refl⟩ hapart
      · exact hlater
    · rw [if_neg hroot]
      refine ih hnodup hwhole fun x hx ↦ ?_
      rcases List.mem_cons.1 (hsubset hx) with rfl | hlater
      · exact absurd hx hroot
      · exact hlater

end Second

end Exposure.Import
