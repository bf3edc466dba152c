import Mathlib.Data.List.Forall2
import Mathlib.Data.List.Induction
import Mathlib.Data.List.Nodup

/-!
# First occurrences

Where a list is to hold each member once, the first occurrence counts. This file says what that
keeps: members stay in the order of the positions at which a pass comes upon them
(`pairwise_eraseDups_filterMap`), and there is at most one of them exactly if all are the same
(`length_le_one_iff`). Where keys occur once to begin with, what is found first under a key is what
has it (`find?_eq_some_of_nodup`), and nothing else has it (`filter_eq_singleton_of_nodup`). Two
lists may be matched member by member; where one of them is taken apart at a member, the other is
taken apart at its match (`exists_append_cons_of_forall₂`).
-/

namespace Exposure

variable {α : Type}

/-- A list without repetitions has at most one member if its members are all the same. -/
theorem length_le_one_iff {xs : List α} (hnodup : xs.Nodup) :
    xs.length ≤ 1 ↔ ∀ a ∈ xs, ∀ b ∈ xs, a = b := by
  rcases xs with - | ⟨a, - | ⟨b, rest⟩⟩
  · simp
  · simp
  · have hne : a ≠ b := fun h ↦ (List.nodup_cons.1 hnodup).1 (h ▸ List.mem_cons_self)
    refine ⟨fun h ↦ ?_, fun h ↦ absurd (h a (by simp) b (by simp)) hne⟩
    simp at h

/-- A list with no more than one member has no other order. -/
theorem eq_of_perm_of_length_le_one {xs ys : List α} (h : xs.Perm ys)
    (hlength : xs.length ≤ 1) : xs = ys := by
  rcases xs with - | ⟨x, - | ⟨second, rest⟩⟩
  · exact h.nil_eq
  · exact (List.perm_singleton.1 h.symm).symm
  · simp at hlength

/-- Where a key tells members apart, it finds the member that has it. -/
theorem find?_eq_some_of_nodup {κ : Type} [DecidableEq κ] {key : α → κ} {xs : List α}
    (hnodup : (xs.map key).Nodup) {k : κ} {x : α} :
    xs.find? (fun y ↦ key y = k) = some x ↔ x ∈ xs ∧ key x = k := by
  constructor
  · intro hfound
    exact ⟨List.mem_of_find?_eq_some hfound, by simpa using List.find?_some hfound⟩
  · rintro ⟨hmem, rfl⟩
    obtain ⟨found, hfound⟩ := Option.isSome_iff_exists.1 <|
      (List.find?_isSome (p := fun y ↦ key y = key x)).2 ⟨x, hmem, by simp⟩
    have hkey : key found = key x := by simpa using List.find?_some hfound
    rw [hfound, List.inj_on_of_nodup_map hnodup (List.mem_of_find?_eq_some hfound) hmem hkey]

/-- Where a key tells members apart, one member has the key of it. -/
theorem filter_eq_singleton_of_nodup {κ : Type} [DecidableEq κ] {key : α → κ} {xs : List α}
    (hnodup : (xs.map key).Nodup) {x : α} (hmem : x ∈ xs) :
    xs.filter (fun y ↦ key y = key x) = [x] := by
  obtain ⟨front, behind, rfl⟩ := List.append_of_mem hmem
  rw [List.map_append, List.map_cons, List.nodup_append, List.nodup_cons] at hnodup
  obtain ⟨-, ⟨hbehind, -⟩, hfront⟩ := hnodup
  have hnone : (front.filter fun y ↦ key y = key x) = [] := List.filter_eq_nil_iff.2
    fun y hy h ↦ hfront _ (List.mem_map_of_mem hy) _ List.mem_cons_self (of_decide_eq_true h)
  have hrest : (behind.filter fun y ↦ key y = key x) = [] := List.filter_eq_nil_iff.2
    fun y hy h ↦ hbehind (of_decide_eq_true h ▸ List.mem_map_of_mem hy)
  rw [List.filter_append, List.filter_cons, if_pos (decide_eq_true rfl), hnone, hrest]
  rfl

/-- What is left out adds nothing. -/
theorem flatMap_filter {β : Type} (p : α → Bool) (f : α → List β) (xs : List α) :
    (xs.filter p).flatMap f = xs.flatMap fun x ↦ if p x then f x else [] := by
  induction xs with
  | nil => rfl
  | cons x xs ih =>
    cases hx : p x <;> simp [hx, ih]

/-- Where one member of a list without repetitions adds anything, all that is added is what it
adds. -/
theorem flatMap_eq_of_forall_ne {β : Type} {f : α → List β} {xs : List α} (hnodup : xs.Nodup)
    {x : α} (hmem : x ∈ xs) (hother : ∀ y ∈ xs, y ≠ x → f y = []) : xs.flatMap f = f x := by
  obtain ⟨front, behind, rfl⟩ := List.append_of_mem hmem
  obtain ⟨-, hbehind, hfront⟩ := List.nodup_append.1 hnodup
  have hnone : ∀ y ∈ front ++ behind, f y = [] := by
    intro y hy
    refine hother y (by simp only [List.mem_append, List.mem_cons] at hy ⊢; tauto) ?_
    rintro rfl
    rcases List.mem_append.1 hy with hy | hy
    · exact hfront y hy y List.mem_cons_self rfl
    · exact (List.nodup_cons.1 hbehind).1 hy
  rw [List.flatMap_append, List.flatMap_cons,
    List.flatMap_eq_nil_iff.2 fun y hy ↦ hnone y (List.mem_append_left _ hy),
    List.flatMap_eq_nil_iff.2 fun y hy ↦ hnone y (List.mem_append_right _ hy), List.nil_append,
    List.append_nil]

variable [DecidableEq α]

/-- At the end of a list a member is a first occurrence exactly if it is new. -/
theorem eraseDups_concat (xs : List α) (x : α) :
    (xs ++ [x]).eraseDups = if x ∈ xs then xs.eraseDups else xs.eraseDups ++ [x] := by
  rw [List.eraseDups_append]
  split
  · rename_i hmem
    simp [List.removeAll, hmem]
  · rename_i hmem
    simp [List.removeAll, hmem, List.eraseDups_cons]

theorem nodup_eraseDups (xs : List α) : xs.eraseDups.Nodup := by
  induction xs using List.reverseRecOn with
  | nil => simp
  | append_singleton xs x ih =>
    rw [eraseDups_concat]
    split
    · exact ih
    · rename_i hnew
      refine List.Nodup.append ih (List.nodup_singleton x) fun y hy hyx ↦ ?_
      rw [List.mem_singleton.1 hyx, List.mem_eraseDups] at hy
      exact hnew hy

/-- What occurs at all is no matter of the order. -/
theorem perm_eraseDups {xs ys : List α} (h : xs.Perm ys) : xs.eraseDups.Perm ys.eraseDups :=
  (List.perm_ext_iff_of_nodup (nodup_eraseDups xs) (nodup_eraseDups ys)).2 fun x ↦ by
    rw [List.mem_eraseDups, List.mem_eraseDups, h.mem_iff]

/-- The first occurrences among some are those that are some of the first occurrences. -/
theorem filter_eraseDups (p : α → Bool) (xs : List α) :
    xs.eraseDups.filter p = (xs.filter p).eraseDups := by
  induction xs using List.reverseRecOn with
  | nil => rfl
  | append_singleton xs x ih =>
    rw [eraseDups_concat, List.filter_append]
    cases hx : p x with
    | false =>
      rw [List.filter_cons_of_neg (by simp [hx]), List.filter_nil, List.append_nil, ← ih]
      split
      · rfl
      · rw [List.filter_append, List.filter_cons_of_neg (by simp [hx]), List.filter_nil,
          List.append_nil]
    | true =>
      rw [List.filter_cons_of_pos hx, List.filter_nil, eraseDups_concat, ← ih]
      simp only [List.mem_filter, hx, and_true]
      split
      · rfl
      · rw [List.filter_append, List.filter_cons_of_pos hx, List.filter_nil]

/-- What is behind a list comes after its members. -/
theorem idxOf_append_lt {xs ys : List α} {a b : α} (ha : a ∈ xs) (hb : b ∉ xs) :
    (xs ++ ys).idxOf a < (xs ++ ys).idxOf b := by
  have hlt := List.idxOf_lt_length_of_mem ha
  rw [List.idxOf_append_of_mem ha, List.idxOf_append_of_notMem hb]
  omega

/-- First occurrences are in the order of the positions at which a pass comes upon them. -/
theorem pairwise_eraseDups_filterMap {β : Type} (f : β → Option α) (xs : List β) :
    (xs.filterMap f).eraseDups.Pairwise fun a b ↦
      xs.findIdx (fun x ↦ f x = some a) < xs.findIdx (fun x ↦ f x = some b) := by
  induction xs using List.reverseRecOn with
  | nil => simp
  | append_singleton xs x ih =>
    -- One more at the end does not move the positions there were.
    have hold : ∀ a ∈ (xs.filterMap f).eraseDups,
        (xs ++ [x]).findIdx (fun x ↦ f x = some a) = xs.findIdx (fun x ↦ f x = some a) ∧
          xs.findIdx (fun x ↦ f x = some a) < xs.length := by
      intro a ha
      obtain ⟨y, hy, hfy⟩ := List.mem_filterMap.1 (List.mem_eraseDups.1 ha)
      have hlt : xs.findIdx (fun x ↦ f x = some a) < xs.length :=
        List.findIdx_lt_length.2 ⟨y, hy, by simpa using hfy⟩
      exact ⟨by rw [List.findIdx_append, if_pos hlt], hlt⟩
    have hpairs : (xs.filterMap f).eraseDups.Pairwise fun a b ↦
        (xs ++ [x]).findIdx (fun x ↦ f x = some a) <
          (xs ++ [x]).findIdx (fun x ↦ f x = some b) := by
      refine ih.imp_of_mem fun {a b} ha hb hlt ↦ ?_
      rwa [(hold a ha).1, (hold b hb).1]
    rw [List.filterMap_append]
    rcases hx : f x with - | b
    · simpa [hx] using hpairs
    · rw [show [x].filterMap f = [b] by simp [hx], eraseDups_concat]
      split
      · exact hpairs
      · rename_i hnew
        refine List.pairwise_append.2 ⟨hpairs, List.pairwise_singleton _ _, fun a ha c hc ↦ ?_⟩
        obtain rfl := List.mem_singleton.1 hc
        have hlength : xs.findIdx (fun x ↦ f x = some c) = xs.length := by
          refine List.findIdx_eq_length_of_false fun y hy ↦ ?_
          rw [decide_eq_false_iff_not]
          exact fun hfy ↦ hnew (List.mem_filterMap.2 ⟨y, hy, hfy⟩)
        rw [(hold a ha).1, List.findIdx_append, hlength, if_neg (Nat.lt_irrefl _)]
        have := (hold a ha).2
        omega

/-- What is in the one of two matched lists has its match in the other. -/
theorem exists_mem_of_forall₂ {α β : Type} {r : α → β → Prop} {xs : List α} {ys : List β}
    (h : List.Forall₂ r xs ys) {x : α} (hmem : x ∈ xs) : ∃ y ∈ ys, r x y := by
  induction h with
  | nil => cases hmem
  | cons hhead _ ih =>
    rcases List.mem_cons.1 hmem with rfl | hmem
    · exact ⟨_, List.mem_cons_self, hhead⟩
    · obtain ⟨y, hy, hr⟩ := ih hmem
      exact ⟨y, List.mem_cons_of_mem _ hy, hr⟩

/-- Where one of two matched lists is taken apart at a member, so is the other. -/
theorem exists_append_cons_of_forall₂ {α β : Type} {r : α → β → Prop} {xs : List α}
    {before rest : List β} {y : β} (h : List.Forall₂ r xs (before ++ y :: rest)) :
    ∃ earlier x later, xs = earlier ++ x :: later ∧ List.Forall₂ r earlier before ∧ r x y := by
  induction before generalizing xs with
  | nil =>
    obtain ⟨x, later, hx, -, rfl⟩ := List.forall₂_cons_right_iff.1 h
    exact ⟨[], x, later, rfl, .nil, hx⟩
  | cons first before ih =>
    obtain ⟨x, xs, hx, hrest, rfl⟩ := List.forall₂_cons_right_iff.1 h
    obtain ⟨earlier, one, later, rfl, hearlier, hone⟩ := ih hrest
    exact ⟨x :: earlier, one, later, rfl, .cons hx hearlier, hone⟩

end Exposure
