/-!
# Identities

Declarations and modules of one run are numbered from one, each in the order of loading.
The numbers are the identities that plans and relocations speak of; zero identifies
nothing.
-/

namespace Exposure

/-- Identity of a declaration within one run. -/
structure DeclId where
  number : Nat
  deriving DecidableEq, Repr

/-- Identity of a module within one run. -/
structure ModuleId where
  number : Nat
  deriving DecidableEq, Repr

/-- The identity of what was loaded at a position counted from zero. -/
def DeclId.ofIndex (index : Nat) : DeclId := ⟨index + 1⟩

/-- The identity of the module at a position counted from zero. -/
def ModuleId.ofIndex (index : Nat) : ModuleId := ⟨index + 1⟩

/-- The position of the declaration with an identity. -/
def DeclId.index (id : DeclId) : Nat := id.number - 1

/-- The position of the module with an identity. -/
def ModuleId.index (id : ModuleId) : Nat := id.number - 1

/-- The `n`-th of a list counted from one; there is none at zero. -/
def nth? {α : Type} (xs : List α) : Nat → Option α
  | 0 => none
  | n + 1 => xs[n]?

/-- What is made of each is made of the `n`-th. -/
theorem nth?_map {α β : Type} (f : α → β) (xs : List α) (n : Nat) :
    nth? (xs.map f) n = (nth? xs n).map f := by
  cases n with
  | zero => rfl
  | succ n => exact List.getElem?_map

/-- A number finds something exactly when it lies between one and the length. -/
theorem isSome_nth? {α : Type} (xs : List α) (n : Nat) :
    (nth? xs n).isSome ↔ 1 ≤ n ∧ n ≤ xs.length := by
  cases n with
  | zero => simp [nth?]
  | succ n =>
    rw [nth?, Option.isSome_iff_ne_none, ne_eq, List.getElem?_eq_none_iff]
    omega

end Exposure
