import Exposure.Proofs.Graph.Built

/-!
# Places

An identity is a number counted from one, kept in a word of 32 bits. What it identifies is stored at
the place before it, and whoever goes there does not ask first whether there is such a place.

The functions that plan a run are total: what is out of range has an empty name, no row and no
declaration. This file has the accesses that are not. **An access has a result exactly if it is in
range** (`Addressed.isSome_fetch?_iff`), and a computation that makes an access without a result has
no result either. So a computation that is made of such accesses and has a result has kept within
all ranges.

In a graph whose identities fit the words (`Graph.FitsWords`) an identity in range finds what it
identifies.
-/

namespace Exposure

namespace Addressed

variable {α β : Type}

/-! ### Words -/

/-- The position that a word stands for. Zero stands for none. -/
def position? (word : UInt32) : Option Nat :=
  if word = 0 then none else some (word - 1).toNat

/-- The word that stands for a position: one more than the position, and not wrapped round. -/
def word? (position : Nat) : Option UInt32 :=
  let word := UInt32.ofNat position + 1
  if word = 0 then none else some word

/-- What a list has at the place that a number stands for. The number comes in a word. -/
def fetch? (xs : List α) (number : Nat) : Option α :=
  (position? (.ofNat number)).bind (xs[·]?)

/-- The number behind a position, as it comes out of a word. -/
def number? (position : Nat) : Option Nat := (word? position).map (·.toNat)

/-- **A number that fits a word** finds what it finds among the numbers. -/
theorem fetch?_eq_nth? {number : Nat} (hfits : number < UInt32.size) (xs : List α) :
    fetch? xs number = nth? xs number := by
  have hword : (UInt32.ofNat number).toNat = number := UInt32.toNat_ofNat_of_lt' hfits
  cases number with
  | zero => rfl
  | succ position =>
    have hne : UInt32.ofNat (position + 1) ≠ 0 := fun heq ↦ by
      rw [heq] at hword
      exact absurd hword (Nat.succ_ne_zero position).symm
    have hback : (UInt32.ofNat (position + 1) - 1).toNat = position := by
      have hle : 1 ≤ UInt32.ofNat (position + 1) := by
        rw [UInt32.le_iff_toNat_le, hword]
        exact Nat.le_add_left 1 position
      rw [UInt32.toNat_sub_of_le _ _ hle, hword]
      rfl
    rw [fetch?, position?, if_neg hne, Option.bind_some, hback, nth?]

/-- **An access has a result exactly if it is in range**, provided that the number fits a word. -/
theorem isSome_fetch?_iff {number : Nat} (hfits : number < UInt32.size) (xs : List α) :
    (fetch? xs number).isSome ↔ 1 ≤ number ∧ number ≤ xs.length := by
  rw [fetch?_eq_nth? hfits, isSome_nth?]

/-- In a list that is short enough every number finds what it stands for. -/
theorem fetch?_of_nth? {xs : List α} (hlength : xs.length < UInt32.size) {number : Nat} {x : α}
    (h : nth? xs number = some x) : fetch? xs number = some x := by
  have hrange := (isSome_nth? xs number).1 (Option.isSome_of_eq_some h)
  rw [fetch?_eq_nth? (Nat.lt_of_le_of_lt hrange.2 hlength), h]

/-- The number behind a position near enough is the next one. -/
theorem number?_eq {position : Nat} (hfits : position + 1 < UInt32.size) :
    number? position = some (position + 1) := by
  have hword : (UInt32.ofNat position + 1).toNat = position + 1 := by
    rw [← UInt32.toNat_ofNat_of_lt' hfits, UInt32.ofNat_add]
    rfl
  have hne : UInt32.ofNat position + 1 ≠ 0 := fun heq ↦ by
    rw [heq] at hword
    exact absurd hword (Nat.succ_ne_zero position).symm
  rw [number?, word?, if_neg hne, Option.map_some, hword]

/-- What would be the last position has no number: the word behind it is zero again. -/
example : number? (UInt32.size - 1) = none := by decide

/-! ### Parts of lists -/

/-- The part of a list from a position on. The position may be the end, but not beyond. -/
def sliceFrom? (position : Nat) (xs : List α) : Option (List α) :=
  if position ≤ xs.length then some (xs.drop position) else none

/-- The part of a list before a position. -/
def sliceTo? (position : Nat) (xs : List α) : Option (List α) :=
  if position ≤ xs.length then some (xs.take position) else none

/-! ### Many accesses -/

/-- What every member has a result for, the list has the list of the results for. -/
theorem mapM_eq_some {access : α → Option β} {result : α → β} {xs : List α}
    (h : ∀ x ∈ xs, access x = some (result x)) : xs.mapM access = some (xs.map result) := by
  induction xs with
  | nil => rfl
  | cons x xs ih =>
    obtain ⟨hx, hxs⟩ := List.forall_mem_cons.1 h
    rw [List.mapM_cons, hx, ih hxs]
    rfl

/-- What succeeds at every step succeeds as a whole. The states of the steps are seen by `view`. -/
theorem foldlM_eq_some {σ τ : Type} (view : σ → τ) {access : τ → α → Option τ} {step : σ → α → σ}
    {xs : List α} (h : ∀ state, ∀ x ∈ xs, access (view state) x = some (view (step state x)))
    (state : σ) : xs.foldlM access (view state) = some (view (xs.foldl step state)) := by
  induction xs generalizing state with
  | nil => rfl
  | cons x xs ih =>
    rw [List.foldlM_cons, h state x List.mem_cons_self]
    exact ih (fun state x hx ↦ h state x (List.mem_cons_of_mem _ hx)) (step state x)

end Addressed

/-! ### Identities of a graph -/

/-- The identity is the number of a declaration. -/
def DeclId.InRange (id : DeclId) (graph : Graph) : Prop :=
  1 ≤ id.number ∧ id.number ≤ graph.declarations.length

/-- The identity is the number of a module. -/
def ModuleId.InRange (id : ModuleId) (graph : Graph) : Prop :=
  1 ≤ id.number ∧ id.number ≤ graph.modules.length

/-- The identity of the module at a position, if there is one. -/
def ModuleId.ofPosition? (position : Nat) : Option ModuleId :=
  (Addressed.number? position).map ModuleId.mk

namespace Graph

/-- Access to a declaration. -/
def fetch? (graph : Graph) (id : DeclId) : Option Declaration :=
  Addressed.fetch? graph.declarations id.number

/-- Access to a module. -/
def fetchModule? (graph : Graph) (id : ModuleId) : Option Module :=
  Addressed.fetch? graph.modules id.number

/-- The name at the place of a declaration. -/
def fetchName? (graph : Graph) (id : DeclId) : Option String := (graph.fetch? id).map (·.name)

/-- The name at the place of a module. -/
def fetchModuleName? (graph : Graph) (id : ModuleId) : Option String :=
  (graph.fetchModule? id).map (·.name)

/-- A graph that is small enough for words to hold the identities of what it holds, and one number
more. -/
structure FitsWords (graph : Graph) : Prop where
  declarations : graph.declarations.length < UInt32.size - 1
  modules : graph.modules.length < UInt32.size - 1

variable {graph : Graph}

namespace WellFormed

/-- The declarations of a graph are in range. -/
theorem inRange (h : graph.WellFormed) {declaration : Declaration}
    (hmem : declaration ∈ graph.declarations) : declaration.id.InRange graph := by
  have hfound := h.declaration?_eq_some.2 ⟨hmem, rfl⟩
  exact (isSome_nth? _ _).1 (Option.isSome_of_eq_some hfound)

/-- The modules of a graph are in range. -/
theorem inRange_module (h : graph.WellFormed) {module : Module} (hmem : module ∈ graph.modules) :
    module.id.InRange graph := by
  have hfound := h.module?_eq_some.2 ⟨hmem, rfl⟩
  exact (isSome_nth? _ _).1 (Option.isSome_of_eq_some hfound)

/-- The module of a declaration is in range. -/
theorem inRange_owner (h : graph.WellFormed) {declaration : Declaration}
    (hmem : declaration ∈ graph.declarations) : declaration.module.InRange graph := by
  obtain ⟨module, hmodule, hid⟩ := h.owned declaration hmem
  exact hid ▸ h.inRange_module hmodule

end WellFormed

namespace FitsWords

variable (h : graph.FitsWords)
include h

/-- A declaration is found where its number says. -/
theorem fetch?_of_declaration? {id : DeclId} {declaration : Declaration}
    (hfound : graph.declaration? id = some declaration) : graph.fetch? id = some declaration :=
  Addressed.fetch?_of_nth? (Nat.lt_of_lt_of_le h.declarations (Nat.sub_le _ _)) hfound

/-- A declaration of the graph is found by its own identity. -/
theorem fetch?_of_mem (hgraph : graph.WellFormed) {declaration : Declaration}
    (hmem : declaration ∈ graph.declarations) : graph.fetch? declaration.id = some declaration :=
  h.fetch?_of_declaration? (hgraph.declaration?_eq_some.2 ⟨hmem, rfl⟩)

/-- A module is found where its number says. -/
theorem fetchModule?_of_module? {id : ModuleId} {module : Module}
    (hfound : graph.module? id = some module) : graph.fetchModule? id = some module :=
  Addressed.fetch?_of_nth? (Nat.lt_of_lt_of_le h.modules (Nat.sub_le _ _)) hfound

/-- An identity in range finds its declaration, and its name with it. -/
theorem exists_fetch? {id : DeclId} (hid : id.InRange graph) :
    ∃ declaration, graph.fetch? id = some declaration ∧
      graph.declarationName id = declaration.name := by
  obtain ⟨declaration, hfound⟩ := Option.isSome_iff_exists.1 ((isSome_nth? _ _).2 hid)
  refine ⟨declaration, h.fetch?_of_declaration? hfound, ?_⟩
  rw [declarationName, declaration?, hfound]
  rfl

/-- An identity in range finds its module, and its name with it. -/
theorem exists_fetchModule? {id : ModuleId} (hid : id.InRange graph) :
    ∃ module, graph.fetchModule? id = some module ∧ graph.moduleName id = module.name := by
  obtain ⟨module, hfound⟩ := Option.isSome_iff_exists.1 ((isSome_nth? _ _).2 hid)
  refine ⟨module, h.fetchModule?_of_module? hfound, ?_⟩
  rw [moduleName, module?, hfound]
  rfl

/-- An identity in range finds the name of its declaration. -/
theorem fetchName?_eq {id : DeclId} (hid : id.InRange graph) :
    graph.fetchName? id = some (graph.declarationName id) := by
  obtain ⟨declaration, hfound, hname⟩ := h.exists_fetch? hid
  rw [fetchName?, hfound, hname, Option.map_some]

/-- An identity in range finds the name of its module. -/
theorem fetchModuleName?_eq {id : ModuleId} (hid : id.InRange graph) :
    graph.fetchModuleName? id = some (graph.moduleName id) := by
  obtain ⟨module, hfound, hname⟩ := h.exists_fetchModule? hid
  rw [fetchModuleName?, hfound, hname, Option.map_some]

end FitsWords
end Graph
end Exposure
