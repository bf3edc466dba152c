import Exposure.Keyed
import Mathlib.Data.List.Induction

/-!
# Filling keyed collections

Pairs are put into a keyed collection one after the other. If no key comes with two values, what the
collection answers in the end is what was put in, whatever the order (`Keyed.get?_foldl_insert`).
If no key even comes twice, nothing is replaced on the way, so that the collection holds exactly the
pairs (`Keyed.entries_foldl_insert`).

The values of a collection may be changed one by one (`Keyed.map`), before or after they are looked
up.
-/

namespace Exposure.Keyed

variable {κ α : Type} [DecidableEq κ] {pairs : List (κ × α)}

/-- Where no key has two values, what is held is what was put in, in whatever order. -/
theorem get?_foldl_insert
    (hone : ∀ a ∈ pairs, ∀ b ∈ pairs, a.1 = b.1 → a.2 = b.2) {key : κ} {value : α} :
    (pairs.foldl (fun keyed pair ↦ keyed.insert pair.1 pair.2) empty).get? key = some value ↔
      (key, value) ∈ pairs := by
  induction pairs using List.reverseRecOn with
  | nil => simp
  | append_singleton pairs pair ih =>
    have hold := ih fun a ha b hb ↦
      hone a (List.mem_append_left _ ha) b (List.mem_append_left _ hb)
    rw [List.foldl_append, List.foldl_cons, List.foldl_nil, get?_insert, List.mem_append,
      List.mem_singleton]
    split
    · rename_i hkey
      subst hkey
      constructor
      · intro hvalue
        exact .inr (Prod.ext rfl (Option.some.inj hvalue).symm)
      · rintro (hmem | hpair)
        · exact congrArg some (hone pair (by simp) _ (List.mem_append_left _ hmem) rfl)
        · rw [← hpair]
    · rename_i hkey
      rw [hold]
      refine (or_iff_left fun hpair ↦ hkey ?_).symm
      rw [← hpair]

/-- Where keys come once, the collection holds what was put in, the last first. -/
theorem entries_foldl_insert (hnodup : (pairs.map (·.1)).Nodup) :
    (pairs.foldl (fun keyed pair ↦ keyed.insert pair.1 pair.2) empty).entries = pairs.reverse := by
  induction pairs using List.reverseRecOn with
  | nil => rfl
  | append_singleton pairs pair ih =>
    rw [List.map_append, List.nodup_append] at hnodup
    obtain ⟨hold, -, hnew⟩ := hnodup
    -- The last key is new, so nothing has to make room for its pair.
    have hkept : ∀ other ∈ pairs.reverse, decide (other.1 ≠ pair.1) = true := fun other hother ↦
      decide_eq_true (hnew other.1 (List.mem_map_of_mem (List.mem_reverse.1 hother)) pair.1
        (by simp))
    rw [List.foldl_append, List.foldl_cons, List.foldl_nil, insert, ih hold,
      List.filter_eq_self.2 hkept, List.reverse_append]
    rfl

/-! ### Changing the values -/

variable {β : Type}

/-- The same keys with other values. -/
def map (f : α → β) (keyed : Keyed κ α) : Keyed κ β :=
  ⟨keyed.entries.map fun entry ↦ (entry.1, f entry.2)⟩

/-- What is looked up is what was there, changed. -/
theorem get?_map (f : α → β) (keyed : Keyed κ α) (key : κ) :
    (keyed.map f).get? key = (keyed.get? key).map f := by
  rw [get?, get?, map, List.find?_map, Option.map_map, Option.map_map]
  rfl

/-- What is put in is changed as well. -/
theorem map_insert (f : α → β) (keyed : Keyed κ α) (key : κ) (value : α) :
    (keyed.insert key value).map f = (keyed.map f).insert key (f value) := by
  rw [map, map, insert, insert, List.map_cons, List.filter_map]
  rfl

end Exposure.Keyed
