/-!
# Keyed collections

A finite map kept as the list of its pairs, one per key. Reading goes by key alone
(`get?_insert`), so what a collection answers does not depend on the order in which pairs
with different keys came in.
-/

namespace Exposure

/-- Values by key. -/
structure Keyed (κ α : Type) where
  /-- The pairs, at most one per key. -/
  entries : List (κ × α)

namespace Keyed

variable {κ α : Type} [DecidableEq κ]

/-- The collection without pairs. -/
def empty : Keyed κ α := ⟨[]⟩

/-- The value under a key. -/
def get? (keyed : Keyed κ α) (key : κ) : Option α :=
  (keyed.entries.find? fun entry ↦ entry.1 = key).map (·.2)

/-- Puts a value under a key, in place of the one that was there. -/
def insert (keyed : Keyed κ α) (key : κ) (value : α) : Keyed κ α :=
  ⟨(key, value) :: keyed.entries.filter fun entry ↦ entry.1 ≠ key⟩

/-- The number of keys. -/
def size (keyed : Keyed κ α) : Nat := keyed.entries.length

@[simp]
theorem get?_empty (key : κ) : (empty : Keyed κ α).get? key = none := rfl

/-- An insertion is seen under its key and nowhere else. -/
theorem get?_insert (keyed : Keyed κ α) (key other : κ) (value : α) :
    (keyed.insert key value).get? other = if key = other then some value else keyed.get? other := by
  by_cases h : key = other
  · simp [get?, insert, h]
  · -- Among the pairs with the other key, dropping those with this one drops none.
    have hother : (fun entry : κ × α ↦ !decide (entry.1 = key) && decide (entry.1 = other)) =
        fun entry ↦ decide (entry.1 = other) := by
      funext entry
      by_cases ho : entry.1 = other
      · simp [ho, Ne.symm h]
      · simp [ho]
    simp [get?, insert, h, List.find?_filter, hother]

end Keyed

end Exposure
