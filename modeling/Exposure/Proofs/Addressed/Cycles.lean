import Exposure.Proofs.Addressed.Places
import Exposure.Proofs.Import.Groups

/-!
# Cycles of imports by identities

The two passes through the imports look up a row, and the flag beside it, for every module that they
come upon, whether it is fresh or not. Here each of these is an access: a module without a row ends
the search without a result.

In a closed table every module that is listed has a row. Both passes start at modules of the table
and come upon no others than those that are listed, so they have a result, and it is that of the
passes that ask first (`Addressed.cycles_eq`).
-/

namespace Exposure.Addressed

open Import (Frame Progress)

variable {α : Type} [DecidableEq α]

/-! ### The passes -/

/-- Goes on from a stack of nodes under way. -/
def deepen (access : α → Option (List α)) (progress : Progress α) (stack : List (Frame α)) :
    Option (Progress α) :=
  match stack with
  | [] => some progress
  | ⟨node, []⟩ :: below =>
    deepen access { progress with finished := node :: progress.finished } below
  | ⟨node, target :: ahead⟩ :: below =>
    match access target with
    | none => none
    | some row =>
      if target ∈ progress.fresh then
        deepen access { progress with fresh := progress.fresh.erase target }
          (⟨target, row⟩ :: ⟨node, ahead⟩ :: below)
      else deepen access progress (⟨node, ahead⟩ :: below)
termination_by
  (progress.fresh.length, (stack.flatMap fun frame ↦ frame.node :: frame.ahead).length)
decreasing_by
  · exact Prod.Lex.right _ (by simp)
  · exact Prod.Lex.left _ _ (Import.length_erase_lt ‹target ∈ progress.fresh›)
  · exact Prod.Lex.right _ (by simp)

/-- Enters a node from outside, if it is fresh. -/
def enter (access : α → Option (List α)) (progress : Progress α) (root : α) :
    Option (Progress α) := do
  let row ← access root
  if root ∈ progress.fresh then
    deepen access { progress with fresh := progress.fresh.erase root } [⟨root, row⟩]
  else return progress

/-- The nodes in the order in which the first pass is done with them, the last one first. -/
def finishOrder (access : α → Option (List α)) (nodes : List α) : Option (List α) := do
  return (← nodes.foldlM (enter access) ⟨nodes, []⟩).finished

/-- Visits what can be reached from `todo` through unvisited nodes. -/
def explore (access : α → Option (List α)) (fresh todo reached : List α) : Option (List α) :=
  match todo with
  | [] => some reached
  | node :: rest =>
    match access node with
    | none => none
    | some row =>
      if node ∈ fresh then explore access (fresh.erase node) (row ++ rest) (node :: reached)
      else explore access fresh rest reached
termination_by (fresh.length, todo.length)
decreasing_by
  · exact Prod.Lex.left _ _ (Import.length_erase_lt ‹node ∈ fresh›)
  · exact Prod.Lex.right _ (by simp)

/-- Takes up nodes one after the other, each with all the fresh nodes that it leads to. -/
def gather (access : α → Option (List α)) (fresh : List α) : List α → Option (List (List α))
  | [] => some []
  | root :: rest => do
    let _ ← access root
    if root ∈ fresh then
      let found ← explore access fresh [root] []
      return found :: (← gather access (fresh.filter (· ∉ found)) rest)
    else gather access fresh rest

/-- The row of a module. -/
def row? (rows : List (List ModuleId)) (module : ModuleId) : Option (List ModuleId) :=
  fetch? rows module.number

/-- The table turned round. A module is noted in the row of each that it lists. -/
def turned (rows : List (List ModuleId)) : Option (List (List ModuleId)) := do
  let _ ← rows.mapM fun listed ↦ listed.mapM (row? rows)
  return Import.turned rows

/-- A cycle with its first member. -/
def headed (cycle : List ModuleId) : Option (ModuleId × List ModuleId) := do
  return (← cycle.head?, cycle)

/-- The groups of two or more modules that import each other. -/
def cycles (rows : List (List ModuleId)) : Option (List (List ModuleId)) := do
  let nodes ← (List.range rows.length).mapM ModuleId.ofPosition?
  let finished ← finishOrder (row? rows) nodes
  let groups ← gather (row? (← turned rows)) nodes finished
  let found ← ((groups.filter fun group ↦ 2 ≤ group.length).map Import.inRunOrder).mapM headed
  return (found.mergeSort fun one other ↦ one.1.number ≤ other.1.number).map (·.2)

/-! ### Their accesses -/

section Passes

variable {access : α → Option (List α)} {next : α → List α} {nodes : List α}
  (haccess : ∀ x ∈ nodes, access x = some (next x)) (hclosed : ∀ x ∈ nodes, next x ⊆ nodes)
include haccess hclosed

theorem deepen_eq (progress : Progress α) (stack : List (Frame α))
    (hahead : ∀ frame ∈ stack, frame.ahead ⊆ nodes) :
    deepen access progress stack = some (Import.deepen next progress stack) := by
  fun_induction Import.deepen next progress stack with
  | case1 progress => rw [deepen]
  | case2 progress node below ih =>
    rw [deepen]
    exact ih (List.forall_mem_cons.1 hahead).2
  | case3 progress node target ahead below hfresh ih =>
    obtain ⟨hframe, hbelow⟩ := List.forall_mem_cons.1 hahead
    obtain ⟨htarget, hrest⟩ := List.cons_subset.1 hframe
    rw [deepen, haccess target htarget]
    dsimp only
    rw [if_pos hfresh]
    exact ih (List.forall_mem_cons.2
      ⟨hclosed target htarget, List.forall_mem_cons.2 ⟨hrest, hbelow⟩⟩)
  | case4 progress node target ahead below hstale ih =>
    obtain ⟨hframe, hbelow⟩ := List.forall_mem_cons.1 hahead
    obtain ⟨htarget, hrest⟩ := List.cons_subset.1 hframe
    rw [deepen, haccess target htarget]
    dsimp only
    rw [if_neg hstale]
    exact ih (List.forall_mem_cons.2 ⟨hrest, hbelow⟩)

theorem finishOrder_eq : finishOrder access nodes = some (Import.finishOrder next nodes) := by
  have hpass : nodes.foldlM (enter access) (⟨nodes, []⟩ : Progress α) =
      some (nodes.foldl (Import.enter next) ⟨nodes, []⟩) := by
    refine foldlM_eq_some id (fun progress root hroot ↦ ?_) (⟨nodes, []⟩ : Progress α)
    dsimp only [id]
    rw [enter, Import.enter, haccess root hroot, Option.bind_eq_bind, Option.bind_some]
    split
    · exact deepen_eq haccess hclosed _ _
        (List.forall_mem_singleton.2 (hclosed root hroot))
    · rfl
  rw [finishOrder, hpass]
  rfl

theorem explore_eq (fresh todo reached : List α) (htodo : todo ⊆ nodes) :
    explore access fresh todo reached = some (Import.explore next fresh todo reached) := by
  fun_induction Import.explore next fresh todo reached with
  | case1 fresh reached => rw [explore]
  | case2 fresh reached node rest hfresh ih =>
    obtain ⟨hnode, hrest⟩ := List.cons_subset.1 htodo
    rw [explore, haccess node hnode]
    dsimp only
    rw [if_pos hfresh]
    exact ih (List.append_subset.2 ⟨hclosed node hnode, hrest⟩)
  | case3 fresh reached node rest hstale ih =>
    obtain ⟨hnode, hrest⟩ := List.cons_subset.1 htodo
    rw [explore, haccess node hnode]
    dsimp only
    rw [if_neg hstale]
    exact ih hrest

theorem gather_eq (fresh order : List α) (horder : order ⊆ nodes) :
    gather access fresh order = some (Import.gather next fresh order) := by
  induction order generalizing fresh with
  | nil => rfl
  | cons root rest ih =>
    obtain ⟨hroot, hrest⟩ := List.cons_subset.1 horder
    rw [gather, Import.gather, haccess root hroot, Option.bind_eq_bind, Option.bind_some]
    split
    · rw [explore_eq haccess hclosed _ _ _ (List.cons_subset.2 ⟨hroot, List.nil_subset _⟩),
        Option.bind_some, ih _ hrest]
      rfl
    · exact ih fresh hrest

end Passes

/-! ### Tables -/

variable {rows : List (List ModuleId)}

/-- Every module of a table has its row. -/
theorem row?_eq (hlength : rows.length < UInt32.size) {module : ModuleId}
    (hmodule : module ∈ Import.nodes rows) :
    row? rows module = some (Import.importsOf rows module) := by
  obtain ⟨row, hrow⟩ := Option.isSome_iff_exists.1
    ((isSome_nth? rows module.number).2 (Import.mem_nodes.1 hmodule))
  rw [row?, fetch?_of_nth? hlength hrow, Import.importsOf, hrow]
  rfl

/-- A closed table is turned round without an access out of range. -/
theorem turned_eq (hlength : rows.length < UInt32.size)
    (hrows : ∀ row ∈ rows, row ⊆ Import.nodes rows) :
    turned rows = some (Import.turned rows) := by
  have hnoted : rows.mapM (fun listed ↦ listed.mapM (row? rows)) =
      some (rows.map fun listed ↦ listed.map (Import.importsOf rows)) :=
    mapM_eq_some fun row hrow ↦ mapM_eq_some fun module hmodule ↦
      row?_eq hlength (hrows row hrow hmodule)
  rw [turned, hnoted]
  rfl

/-- A cycle has a first member. -/
theorem headed_eq {cycle : List ModuleId} (hne : cycle ≠ []) :
    headed cycle = some (⟨Import.firstNumber cycle⟩, cycle) := by
  obtain ⟨first, rest, rfl⟩ := List.exists_cons_of_ne_nil hne
  rfl

/-- **No access of the passes is out of range** in a closed table. -/
theorem cycles_eq (hlength : rows.length < UInt32.size)
    (hrows : ∀ row ∈ rows, row ⊆ Import.nodes rows) : cycles rows = some (Import.cycles rows) := by
  have hclosed : Import.Closed rows := Import.closed_of_forall_mem fun row hrow module hmodule ↦
    Import.mem_nodes.1 (hrows row hrow hmodule)
  have hnodes : (List.range rows.length).mapM ModuleId.ofPosition? = some (Import.nodes rows) := by
    refine mapM_eq_some fun position hposition ↦ ?_
    have hlt : position < rows.length := List.mem_range.1 hposition
    rw [ModuleId.ofPosition?, number?_eq (by omega)]
    rfl
  -- Both passes stay within the table, since every row lists numbers of rows.
  have hfinished : finishOrder (row? rows) (Import.nodes rows) =
      some (Import.finishOrder (Import.importsOf rows) (Import.nodes rows)) :=
    finishOrder_eq (fun module ↦ row?_eq hlength) hclosed.importsOf_subset
  have hgroups : gather (row? (Import.turned rows)) (Import.nodes rows)
      (Import.finishOrder (Import.importsOf rows) (Import.nodes rows)) =
        some (Import.groups rows) := by
    have hsame : (Import.turned rows).length = rows.length := by simp [Import.turned, Import.nodes]
    refine gather_eq (fun module hmodule ↦ ?_) (fun module hmodule importer himporter ↦ ?_) _ _
      (Import.finishOrder_perm hclosed).subset
    · rw [← Import.nodes_turned] at hmodule
      exact row?_eq (hsame ▸ hlength) hmodule
    · exact ((Import.lists_turned hclosed).1 himporter).mem_nodes
  have hheaded : ((((Import.groups rows).filter fun group ↦ 2 ≤ group.length).map
      Import.inRunOrder).mapM headed) =
        some ((((Import.groups rows).filter fun group ↦ 2 ≤ group.length).map
          Import.inRunOrder).map fun cycle ↦ (⟨Import.firstNumber cycle⟩, cycle)) := by
    refine mapM_eq_some fun cycle hcycle ↦ headed_eq ?_
    obtain ⟨group, hgroup, rfl⟩ := List.mem_map.1 hcycle
    -- Only groups of two or more are kept, so each has a first member.
    have htwo : 2 ≤ group.length := of_decide_eq_true (List.mem_filter.1 hgroup).2
    rw [← List.length_pos_iff_ne_nil, Import.length_inRunOrder]
    omega
  simp only [cycles, hnodes, hfinished, turned_eq hlength hrows, hgroups, hheaded,
    Option.bind_eq_bind, Option.bind_some]
  refine congrArg some ?_
  rw [Import.cycles, ← List.map_mergeSort (r := fun one other ↦
    decide (Import.firstNumber one ≤ Import.firstNumber other)) fun _ _ _ _ ↦ rfl, List.map_map]
  exact List.map_id _

end Exposure.Addressed
