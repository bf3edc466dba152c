import Exposure.Identity

/-!
# Import cycles

Modules that can reach each other along imports form a **group**. `Import.cycles` lists the
groups of two or more modules: members in run order, groups by their first member. A module
whose only way back to itself is an import of itself is in no group.

Groups are found in two passes. The first goes depth-first along the imports and notes every
module when all that it leads to is done (`finishOrder`). The second takes up the modules as they
were noted, the last one first, and goes along the imports backwards: what it comes upon and is
not in a group yet is the group of the module it has taken up (`gather`).
-/

namespace Exposure.Import

variable {α : Type} [DecidableEq α]

/-- Without a member a list is shorter. -/
theorem length_erase_lt {x : α} {xs : List α} (h : x ∈ xs) : (xs.erase x).length < xs.length := by
  have hpos := List.length_pos_of_mem h
  rw [List.length_erase_of_mem h]
  omega

/-! ### The first pass -/

/-- A node under way, with what it lists and has not been looked at yet. -/
structure Frame (α : Type) where
  node : α
  ahead : List α

/-- How far the first pass has come. -/
structure Progress (α : Type) where
  /-- The nodes that have not been entered. -/
  fresh : List α
  /-- The nodes that are done, the last one first. -/
  finished : List α

/-- Goes on from a stack of nodes under way, the one entered last on top. The next node that the
top lists is entered if it is fresh; a node with nothing left to look at is done. -/
def deepen (next : α → List α) (progress : Progress α) (stack : List (Frame α)) : Progress α :=
  match stack with
  | [] => progress
  | ⟨node, []⟩ :: below =>
    deepen next { progress with finished := node :: progress.finished } below
  | ⟨node, target :: ahead⟩ :: below =>
    if target ∈ progress.fresh then
      deepen next { progress with fresh := progress.fresh.erase target }
        (⟨target, next target⟩ :: ⟨node, ahead⟩ :: below)
    else deepen next progress (⟨node, ahead⟩ :: below)
termination_by
  (progress.fresh.length, (stack.flatMap fun frame ↦ frame.node :: frame.ahead).length)
decreasing_by
  · exact Prod.Lex.right _ (by simp)
  · exact Prod.Lex.left _ _ (length_erase_lt ‹target ∈ progress.fresh›)
  · exact Prod.Lex.right _ (by simp)

/-- Enters a node from outside, if it is fresh. -/
def enter (next : α → List α) (progress : Progress α) (root : α) : Progress α :=
  if root ∈ progress.fresh then
    deepen next { progress with fresh := progress.fresh.erase root } [⟨root, next root⟩]
  else progress

/-- The nodes in the order in which the first pass is done with them, the last one first. -/
def finishOrder (next : α → List α) (nodes : List α) : List α :=
  (nodes.foldl (enter next) ⟨nodes, []⟩).finished

/-! ### The second pass -/

/-- Visits what can be reached from `todo` through unvisited nodes. Every visit takes a node
off `fresh`, so the visits come to an end. -/
def explore (next : α → List α) (fresh todo reached : List α) : List α :=
  match todo with
  | [] => reached
  | node :: rest =>
    if node ∈ fresh then
      explore next (fresh.erase node) (next node ++ rest) (node :: reached)
    else explore next fresh rest reached
termination_by (fresh.length, todo.length)
decreasing_by
  · exact Prod.Lex.left _ _ (length_erase_lt ‹node ∈ fresh›)
  · exact Prod.Lex.right _ (by simp)

/-- Takes up nodes one after the other. With each that is not in a group yet, all the fresh nodes
that it leads to make up a group, and are fresh no longer. -/
def gather (next : α → List α) (fresh : List α) : List α → List (List α)
  | [] => []
  | root :: rest =>
    if root ∈ fresh then
      let found := explore next fresh [root] []
      found :: gather next (fresh.filter (· ∉ found)) rest
    else gather next fresh rest

/-! ### Tables -/

/-- The modules of a table with one row of imports a module. -/
def nodes (imports : List (List ModuleId)) : List ModuleId :=
  (List.range imports.length).map ModuleId.ofIndex

/-- The modules that a module imports. -/
def importsOf (imports : List (List ModuleId)) (module : ModuleId) : List ModuleId :=
  (nth? imports module.number).getD []

/-- The table turned round: one row of importers a module. -/
def turned (imports : List (List ModuleId)) : List (List ModuleId) :=
  (nodes imports).map fun module ↦
    (nodes imports).filter fun importer ↦ module ∈ importsOf imports importer

/-- The groups of the modules of a table, as they are found. -/
def groups (imports : List (List ModuleId)) : List (List ModuleId) :=
  gather (importsOf (turned imports)) (nodes imports)
    (finishOrder (importsOf imports) (nodes imports))

/-- Modules in run order. -/
def inRunOrder (modules : List ModuleId) : List ModuleId :=
  modules.mergeSort fun one other ↦ one.number ≤ other.number

/-- The number of the first member of a group. -/
def firstNumber (modules : List ModuleId) : Nat := modules.head?.elim 0 (·.number)

/-- The groups of two or more modules that import each other. -/
def cycles (imports : List (List ModuleId)) : List (List ModuleId) :=
  (((groups imports).filter fun found ↦ 2 ≤ found.length).map inRunOrder).mergeSort
    fun one other ↦ firstNumber one ≤ firstNumber other

end Exposure.Import
