import Exposure.Proofs.Import.Passes
import Mathlib.Data.List.Nodup
import Mathlib.Data.List.Pairwise
import Mathlib.Data.List.Permutation
import Mathlib.Logic.Relation

/-!
# Groups of modules that import each other

A table has one row of imports a module, and in a closed table every module that is listed has a
row. What the two passes find in it are the groups of modules that chains of imports join both ways
(`gathered_groups`). A cycle is a group of two or more of them (`mem_cycles`).

Members and cycles are listed in the order of the run (`pairwise_inRunOrder`, `pairwise_cycles`),
which says nothing about who imports whom. No group is missing and none is listed twice. Which
modules list which decides both (`cycles_eq_of_lists_eq`).

The passes are stated to be exact in `cycles_are_groups`.
-/

namespace Exposure.Import

/-! ### Tables -/

variable {imports : List (List ModuleId)} {a b : ModuleId}

/-- In a table a module lists another. -/
def Lists (imports : List (List ModuleId)) (a b : ModuleId) : Prop := b ∈ importsOf imports a

/-- What is listed in a table are its own modules. -/
def Closed (imports : List (List ModuleId)) : Prop :=
  ∀ a b, Lists imports a b → b ∈ nodes imports

theorem mem_nodes : a ∈ nodes imports ↔ 1 ≤ a.number ∧ a.number ≤ imports.length := by
  rw [nodes, List.mem_map]
  constructor
  · rintro ⟨index, hindex, rfl⟩
    have hlt : index < imports.length := List.mem_range.1 hindex
    exact ⟨Nat.succ_pos index, hlt⟩
  · rintro ⟨hone, hle⟩
    refine ⟨a.number - 1, List.mem_range.2 (by omega), ?_⟩
    rw [ModuleId.ofIndex, Nat.sub_add_cancel hone]

/-- The modules of a table are in the order of their numbers. -/
theorem pairwise_nodes : (nodes imports).Pairwise fun a b ↦ a.number < b.number := by
  refine List.pairwise_map.2 (List.pairwise_lt_range.imp fun {a b} hlt ↦ ?_)
  exact Nat.succ_lt_succ hlt

/-- What is in the order of the numbers holds nothing twice. -/
theorem nodup_of_pairwise {xs : List ModuleId} (h : xs.Pairwise fun a b ↦ a.number < b.number) :
    xs.Nodup := by
  refine h.imp fun {a b} hlt heq ↦ ?_
  rw [heq] at hlt
  exact Nat.lt_irrefl _ hlt

/-- Only the modules of a table list anything. -/
theorem Lists.mem_nodes (h : Lists imports a b) : a ∈ nodes imports := by
  rw [Import.mem_nodes, ← isSome_nth?]
  rcases hrow : nth? imports a.number with - | row
  · rw [Lists, importsOf, hrow] at h
    cases h
  · rfl

/-- A table is closed if its rows hold numbers of rows only. -/
theorem closed_of_forall_mem
    (h : ∀ row ∈ imports, ∀ module ∈ row, 1 ≤ module.number ∧ module.number ≤ imports.length) :
    Closed imports := by
  intro a b hlists
  rw [Lists, importsOf] at hlists
  rcases hrow : nth? imports a.number with - | row
  · rw [hrow] at hlists
    cases hlists
  · rw [hrow] at hlists
    have hmem : row ∈ imports := by
      rcases hnumber : a.number with - | index
      · rw [hnumber] at hrow
        cases hrow
      · rw [hnumber, nth?] at hrow
        exact List.mem_of_getElem? hrow
    exact mem_nodes.2 (h row hmem b hlists)

/-- The table turned round has the same modules. -/
theorem nodes_turned : nodes (turned imports) = nodes imports := by
  rw [nodes, turned, List.length_map, nodes, List.length_map, List.length_range]

/-- **Turned round, a table lists the importers.** -/
theorem lists_turned (hclosed : Closed imports) :
    Lists (turned imports) a b ↔ Lists imports b a := by
  have hrow (ha : a ∈ nodes imports) :
      Lists (turned imports) a b ↔ b ∈ nodes imports ∧ Lists imports b a := by
    obtain ⟨index, hindex, rfl⟩ := List.mem_map.1 ha
    rw [Lists, importsOf, turned, ModuleId.ofIndex, nth?, List.getElem?_map, nodes,
      List.getElem?_map, List.getElem?_range (List.mem_range.1 hindex)]
    simp [Lists, ModuleId.ofIndex]
  constructor
  · intro h
    have ha := h.mem_nodes
    rw [nodes_turned] at ha
    exact ((hrow ha).1 h).2
  · intro h
    exact (hrow (hclosed b a h)).2 ⟨h.mem_nodes, h⟩

/-! ### Groups -/

/-- The modules of a closed table are left to be followed from within only. -/
theorem Closed.importsOf_subset (hclosed : Closed imports) :
    ∀ a ∈ nodes imports, importsOf imports a ⊆ nodes imports := fun a _ b hb ↦ hclosed a b hb

/-- The first pass is done with every module of a closed table. -/
theorem finishOrder_perm (hclosed : Closed imports) :
    (finishOrder (importsOf imports) (nodes imports)).Perm (nodes imports) :=
  (lastFirst_finishOrder hclosed.importsOf_subset (nodup_of_pairwise pairwise_nodes)).1

/-- **The two passes find the groups** of the modules of a closed table. -/
theorem gathered_groups (hclosed : Closed imports) :
    Gathered (importsOf imports) (nodes imports) (groups imports) := by
  have hnodup : (nodes imports).Nodup := nodup_of_pairwise pairwise_nodes
  obtain ⟨hperm, horder⟩ := lastFirst_finishOrder hclosed.importsOf_subset hnodup
  exact gathered_gather (fun a b ↦ lists_turned hclosed) horder hnodup
    (fun a ha b hjoined ↦ hjoined.1.mem hclosed.importsOf_subset ha)
    fun a ha ↦ hperm.mem_iff.2 ha

/-- The groups hold every module of a closed table once. -/
theorem flatten_groups_perm (hclosed : Closed imports) :
    (groups imports).flatten.Perm (nodes imports) := by
  have hgathered := gathered_groups hclosed
  have hnodup : (groups imports).flatten.Nodup :=
    List.nodup_flatten.2 ⟨hgathered.nodup, hgathered.disjoint⟩
  refine (List.perm_ext_iff_of_nodup hnodup (nodup_of_pairwise pairwise_nodes)).2 fun a ↦ ?_
  rw [List.mem_flatten]
  constructor
  · rintro ⟨group, hgroup, ha⟩
    obtain ⟨root, hroot, hjoined⟩ := hgathered.joined group hgroup
    exact ((hjoined a).1 ha).1.mem hclosed.importsOf_subset hroot
  · exact hgathered.whole a

variable {found : List ModuleId}

theorem mem_inRunOrder : a ∈ inRunOrder found ↔ a ∈ found := List.mem_mergeSort

theorem length_inRunOrder : (inRunOrder found).length = found.length :=
  List.length_mergeSort found

/-- In run order the numbers go up. -/
theorem pairwise_inRunOrder (h : found.Nodup) :
    (inRunOrder found).Pairwise fun a b ↦ a.number < b.number := by
  have hsorted : (inRunOrder found).Pairwise fun a b ↦ decide (a.number ≤ b.number) = true :=
    List.pairwise_mergeSort (by simpa using fun a b c ↦ Nat.le_trans)
      (by simpa using fun a b ↦ Nat.le_total _ _) found
  have hnodup : (inRunOrder found).Nodup := (List.mergeSort_perm _ _).nodup_iff.2 h
  refine (hsorted.and hnodup).imp fun {a b} hab ↦ ?_
  obtain ⟨hle, hne⟩ := hab
  exact Nat.lt_of_le_of_ne (of_decide_eq_true hle) fun heq ↦ hne (congrArg ModuleId.mk heq)

/-- A cycle is a group of two or more, in run order. -/
theorem mem_cycles_iff_exists_group :
    found ∈ cycles imports ↔
      ∃ group ∈ groups imports, 2 ≤ group.length ∧ inRunOrder group = found := by
  simp [cycles, and_assoc]

/-- **What is listed as a cycle** is two modules or more, joined both ways with each other and with
no further module, in the order of their numbers. -/
theorem of_mem_cycles (hclosed : Closed imports) (h : found ∈ cycles imports) :
    2 ≤ found.length ∧ (∀ a ∈ found, a ∈ nodes imports) ∧
      found.Pairwise (fun a b ↦ a.number < b.number) ∧
      ∀ a ∈ found, ∀ b, b ∈ found ↔
        Relation.ReflTransGen (Lists imports) a b ∧
          Relation.ReflTransGen (Lists imports) b a := by
  obtain ⟨group, hgroup, hlength, rfl⟩ := mem_cycles_iff_exists_group.1 h
  have hgathered := gathered_groups hclosed
  obtain ⟨root, hroot, hjoined⟩ := hgathered.joined group hgroup
  refine ⟨?_, fun a ha ↦ ?_, pairwise_inRunOrder (hgathered.nodup _ hgroup), fun a ha b ↦ ?_⟩
  · rw [length_inRunOrder]
    exact hlength
  · exact ((hjoined a).1 (mem_inRunOrder.1 ha)).1.mem hclosed.importsOf_subset hroot
  · have ha := (hjoined a).1 (mem_inRunOrder.1 ha)
    rw [mem_inRunOrder, hjoined b]
    exact ⟨fun hb ↦ ha.symm.trans hb, fun hb ↦ ha.trans hb⟩

/-- Modules in the order of their numbers are told by who is among them. -/
theorem eq_of_pairwise_of_mem_iff {xs ys : List ModuleId}
    (hxs : xs.Pairwise fun a b ↦ a.number < b.number)
    (hys : ys.Pairwise fun a b ↦ a.number < b.number) (h : ∀ a, a ∈ xs ↔ a ∈ ys) : xs = ys := by
  refine ((List.perm_ext_iff_of_nodup (nodup_of_pairwise hxs) (nodup_of_pairwise hys)).2
    h).eq_of_pairwise ?_ hxs hys
  intro a b _ _ hlt hgt
  exact absurd hgt (Nat.lt_asymm hlt)

/-- **Modules that are joined both ways share a cycle**, if they are not the same. -/
theorem exists_cycle_of_joined (hclosed : Closed imports) (hne : a ≠ b)
    (hto : Relation.ReflTransGen (Lists imports) a b)
    (hfrom : Relation.ReflTransGen (Lists imports) b a) :
    ∃ found ∈ cycles imports, a ∈ found ∧ b ∈ found := by
  -- The first reaches the second, so it lists something and is in the table.
  have hnode : a ∈ nodes imports := by
    rcases hto.cases_head with heq | ⟨next, hlists, -⟩
    · exact absurd heq hne
    · exact hlists.mem_nodes
  have hgathered := gathered_groups hclosed
  obtain ⟨group, hgroup, ha⟩ := hgathered.whole a hnode
  obtain ⟨root, -, hjoined⟩ := hgathered.joined group hgroup
  have hb : b ∈ group := (hjoined b).2 (((hjoined a).1 ha).trans ⟨hto, hfrom⟩)
  have hlength : 2 ≤ group.length := by
    have hpair : [a, b].Nodup := by simp [hne]
    have hsubset : [a, b] ⊆ group := by simp [ha, hb]
    exact (List.subperm_of_subset hpair hsubset).length_le
  exact ⟨inRunOrder group, mem_cycles_iff_exists_group.2 ⟨group, hgroup, hlength, rfl⟩,
    mem_inRunOrder.2 ha, mem_inRunOrder.2 hb⟩

/-- **The cycles of a table** are the lists of two modules or more, in the order of their numbers,
that are joined both ways with each other and with no further module. -/
theorem mem_cycles (hclosed : Closed imports) :
    found ∈ cycles imports ↔
      2 ≤ found.length ∧ found.Pairwise (fun a b ↦ a.number < b.number) ∧
        ∀ a ∈ found, ∀ b, b ∈ found ↔
          Relation.ReflTransGen (Lists imports) a b ∧
            Relation.ReflTransGen (Lists imports) b a := by
  constructor
  · intro h
    obtain ⟨hlength, -, hordered, hjoined⟩ := of_mem_cycles hclosed h
    exact ⟨hlength, hordered, hjoined⟩
  · rintro ⟨hlength, hordered, hjoined⟩
    obtain ⟨a, b, rest, rfl⟩ : ∃ a b rest, found = a :: b :: rest := by
      rcases found with - | ⟨a, - | ⟨b, rest⟩⟩
      · simp at hlength
      · simp at hlength
      · exact ⟨a, b, rest, rfl⟩
    -- The first two share a cycle, and it has the same members.
    have hne : a ≠ b := fun heq ↦ by simp [heq] at hordered
    obtain ⟨hto, hfrom⟩ := (hjoined a (by simp) b).1 (by simp)
    obtain ⟨cycle, hcycle, ha, -⟩ := exists_cycle_of_joined hclosed hne hto hfrom
    obtain ⟨-, -, hcycleOrdered, hcycleJoined⟩ := of_mem_cycles hclosed hcycle
    rwa [eq_of_pairwise_of_mem_iff hordered hcycleOrdered fun c ↦ by
      rw [hjoined a (by simp), hcycleJoined a ha]]

/-! ### The order of the cycles -/

/-- No module is in two cycles. -/
theorem disjoint_cycles (hclosed : Closed imports) :
    (cycles imports).Pairwise List.Disjoint := by
  refine ((List.mergeSort_perm _ _).pairwise_iff fun h ↦ List.disjoint_symm h).2 ?_
  refine List.pairwise_map.2 (((gathered_groups hclosed).disjoint.filter _).imp ?_)
  intro first second hdisjoint a ha hb
  exact hdisjoint (mem_inRunOrder.1 ha) (mem_inRunOrder.1 hb)

/-- Cycles are listed in the order of their first members. -/
theorem pairwise_cycles (hclosed : Closed imports) :
    (cycles imports).Pairwise fun first second ↦
      ∀ a ∈ first.head?, ∀ b ∈ second.head?, a.number < b.number := by
  have hsorted : (cycles imports).Pairwise fun first second ↦
      decide (firstNumber first ≤ firstNumber second) = true :=
    List.pairwise_mergeSort (by simpa using fun a b c ↦ Nat.le_trans)
      (by simpa using fun a b ↦ Nat.le_total _ _) _
  refine (hsorted.and (disjoint_cycles hclosed)).imp fun {first second} hboth a ha b hb ↦ ?_
  obtain ⟨hle, hdisjoint⟩ := hboth
  rw [decide_eq_true_iff, firstNumber, firstNumber, Option.mem_def.1 ha, Option.mem_def.1 hb,
    Option.elim_some, Option.elim_some] at hle
  refine Nat.lt_of_le_of_ne hle fun heq ↦ ?_
  obtain rfl : a = b := congrArg ModuleId.mk heq
  exact hdisjoint (List.mem_of_head? ha) (List.mem_of_head? hb)

/-- No cycle is listed twice. -/
theorem nodup_cycles (hclosed : Closed imports) : (cycles imports).Nodup := by
  refine (pairwise_cycles hclosed).imp_of_mem fun {a b} ha _ hlt heq ↦ ?_
  subst heq
  -- A cycle has a first member, which does not come before itself.
  obtain ⟨hlength, -⟩ := of_mem_cycles hclosed ha
  cases a with
  | nil => cases hlength
  | cons first rest => exact Nat.lt_irrefl _ (hlt first rfl first rfl)

/-- **Which modules list which decides the cycles**; why they list each other, and in which order,
does not. -/
theorem cycles_eq_of_lists_eq {others : List (List ModuleId)} (hclosed : Closed imports)
    (hothers : Closed others) (h : Lists imports = Lists others) :
    cycles imports = cycles others := by
  have hmem (members : List ModuleId) : members ∈ cycles imports ↔ members ∈ cycles others := by
    rw [mem_cycles hclosed, mem_cycles hothers, h]
  refine ((List.perm_ext_iff_of_nodup (nodup_cycles hclosed) (nodup_cycles hothers)).2
    hmem).eq_of_pairwise ?_ (pairwise_cycles hclosed) (pairwise_cycles hothers)
  intro a b ha hb hlt hgt
  obtain ⟨hfirst, -⟩ := of_mem_cycles hclosed ha
  obtain ⟨hsecond, -⟩ := of_mem_cycles hothers hb
  rcases a with - | ⟨a, rest⟩
  · cases hfirst
  rcases b with - | ⟨b, rest⟩
  · cases hsecond
  exact absurd (hgt b rfl a rfl) (Nat.lt_asymm (hlt a rfl b rfl))

/-- **The two passes list exactly the groups.** In a table whose rows hold numbers of rows only,
the first pass is done with every module once and the second puts every module into one group. Two
modules share a cycle exactly if chains of imports lead from each to the other. A cycle has two
members or more, in the order of their numbers; no two cycles have a member in common, and they are
in the order of their first members. A module that is joined with no other is in no cycle, whether
or not it lists itself. -/
theorem cycles_are_groups (imports : List (List ModuleId))
    (h : ∀ row ∈ imports, ∀ module ∈ row, 1 ≤ module.number ∧ module.number ≤ imports.length) :
    (finishOrder (importsOf imports) (nodes imports)).Perm (nodes imports) ∧
    (groups imports).flatten.Perm (nodes imports) ∧
    (∀ a b, a ≠ b → ((∃ found ∈ cycles imports, a ∈ found ∧ b ∈ found) ↔
      Relation.ReflTransGen (Lists imports) a b ∧ Relation.ReflTransGen (Lists imports) b a)) ∧
    (∀ found ∈ cycles imports, 2 ≤ found.length ∧
      found.Pairwise fun a b ↦ a.number < b.number) ∧
    (cycles imports).Pairwise List.Disjoint ∧
    ((cycles imports).Pairwise fun first second ↦
      ∀ a ∈ first.head?, ∀ b ∈ second.head?, a.number < b.number) ∧
    ∀ a, (∀ b, Relation.ReflTransGen (Lists imports) a b →
      Relation.ReflTransGen (Lists imports) b a → b = a) → ∀ found ∈ cycles imports, a ∉ found := by
  have hclosed : Closed imports := closed_of_forall_mem h
  refine ⟨finishOrder_perm hclosed, flatten_groups_perm hclosed, fun a b hne ↦ ⟨?_, ?_⟩,
    fun found hfound ↦ ?_, disjoint_cycles hclosed, pairwise_cycles hclosed, ?_⟩
  · rintro ⟨found, hfound, ha, hb⟩
    obtain ⟨-, -, -, hjoined⟩ := of_mem_cycles hclosed hfound
    exact (hjoined a ha b).1 hb
  · rintro ⟨hto, hfrom⟩
    exact exists_cycle_of_joined hclosed hne hto hfrom
  · obtain ⟨hlength, -, hordered, -⟩ := of_mem_cycles hclosed hfound
    exact ⟨hlength, hordered⟩
  · intro a halone found hfound ha
    obtain ⟨hlength, -, hordered, hjoined⟩ := of_mem_cycles hclosed hfound
    -- The first two members would be the same one.
    have hall : ∀ b ∈ found, b = a := fun b hb ↦
      halone b ((hjoined a ha b).1 hb).1 ((hjoined a ha b).1 hb).2
    rcases found with - | ⟨first, - | ⟨second, rest⟩⟩
    · simp at hlength
    · simp at hlength
    · have hlt : first.number < second.number :=
        (List.pairwise_cons.1 hordered).1 second List.mem_cons_self
      rw [hall first (by simp), hall second (by simp)] at hlt
      exact Nat.lt_irrefl _ hlt

/-- Three modules that are joined, the first of which lists the second twice and itself, and a
fourth that lists itself and the first. -/
def knot : List (List ModuleId) := [[⟨2⟩, ⟨2⟩, ⟨1⟩], [⟨3⟩, ⟨1⟩], [⟨2⟩], [⟨4⟩, ⟨1⟩]]

theorem cycles_knot :
    cycles knot = [[⟨1⟩, ⟨2⟩, ⟨3⟩]] ∧
    (Relation.ReflTransGen (Lists knot) ⟨1⟩ ⟨3⟩ ∧ Relation.ReflTransGen (Lists knot) ⟨3⟩ ⟨1⟩) ∧
    ∀ found ∈ cycles knot, ⟨4⟩ ∉ found := by
  have hcycles : cycles knot = [[⟨1⟩, ⟨2⟩, ⟨3⟩]] := by cbv
  obtain ⟨-, -, hjoined, -⟩ := cycles_are_groups knot (by decide)
  refine ⟨hcycles, (hjoined ⟨1⟩ ⟨3⟩ (by decide)).1 ⟨[⟨1⟩, ⟨2⟩, ⟨3⟩], ?_, by decide, by decide⟩, ?_⟩
  · rw [hcycles]
    exact List.mem_singleton_self _
  · rw [hcycles]
    decide

/-- Where two are joined both ways with each other and with nothing else, and nothing lists itself,
the one lists the other. -/
theorem lists_of_joined {α : Type} {lists : α → α → Prop} (hself : ∀ x, ¬ lists x x) {a b : α}
    (hne : a ≠ b) (hto : Relation.ReflTransGen lists a b)
    (hfrom : Relation.ReflTransGen lists b a)
    (honly : ∀ x, Relation.ReflTransGen lists a x → Relation.ReflTransGen lists x a →
      x = a ∨ x = b) : lists a b := by
  rcases hto.cases_head with heq | ⟨next, hstep, hrest⟩
  · exact absurd heq hne
  · rcases honly next (.single hstep) (hrest.trans hfrom) with rfl | rfl
    · exact absurd hstep (hself _)
    · exact hstep

end Exposure.Import
