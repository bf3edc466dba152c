import Exposure.Proofs.FirstOccurrences
import Exposure.Proofs.Plan.Visits

/-!
# Slots

A visit concerns at most one slot: a visible declaration notes that it is exposed, an alias notes
its request with the target of its chain. A pass therefore comes to a list of **notes**, and the
slots are these notes gathered by target, in order of first mention (`Survey.foldl_into`).

What the notes of an orderly graph are is in `Exposure.Proofs.Plan.Wanted`.
-/

namespace Exposure

/-! ### Notes -/

/-- What a visit has to say about a target. -/
inductive Note where
  /-- The target is visible itself. -/
  | exposed (target : Declaration)
  /-- An alias requests the target. -/
  | asked (target : Declaration) (request : Alias.Request)

namespace Note

/-- The target that a note is about. -/
def target : Note → Declaration
  | exposed target | asked target _ => target

/-- What a note changes in the slot of its target. -/
def change : Note → Slot → Slot
  | exposed _, slot => { slot with direct := true }
  | asked _ request, slot => { slot with requests := slot.requests ++ [request] }

/-- Whether a note says that a target is visible itself. -/
def exposes (target : Declaration) : Note → Bool
  | exposed other => other = target
  | asked _ _ => false

/-- The request for a target that a note carries. -/
def requestFor? (target : Declaration) : Note → Option Alias.Request
  | exposed _ => none
  | asked other request => if other = target then some request else none

/-- The slots after a note. -/
def into (run : Run) (slots : List Slot) (note : Note) : List Slot :=
  Survey.changeSlot run note.target note.change slots

end Note

/-- What notes come to for one target. -/
def Slot.gathered (run : Run) (notes : List Note) (target : Declaration) : Slot where
  target := target
  direct := notes.any (·.exposes target)
  hidden := run.isHidden target
  requests := notes.filterMap (·.requestFor? target)

/-! ### Gathering by target -/

namespace Survey

variable {run : Run} {change : Slot → Slot} {target : Declaration} {slotOf : Declaration → Slot}

/-- Where a slot is there for the target, it is changed and no other. -/
theorem changeSlot_map_of_mem (hslot : ∀ other, (slotOf other).target = other)
    {targets : List Declaration} (hnodup : targets.Nodup)
    (hids : ∀ other ∈ targets, other.id = target.id → other = target)
    (hmem : target ∈ targets) :
    changeSlot run target change (targets.map slotOf) =
      targets.map fun other ↦ if other = target then change (slotOf other) else slotOf other := by
  induction targets with
  | nil => cases hmem
  | cons first rest ih =>
    rw [List.nodup_cons] at hnodup
    obtain ⟨hfirst, hrest⟩ := List.forall_mem_cons.1 hids
    rw [List.map_cons, List.map_cons, changeSlot, hslot]
    rcases List.mem_cons.1 hmem with rfl | hmem
    · rw [if_pos rfl, if_pos rfl]
      congr 1
      refine List.map_congr_left fun other hother ↦ ?_
      rw [if_neg fun (h : other = target) ↦ hnodup.1 (h ▸ hother)]
    · have hne : first ≠ target := fun h ↦ hnodup.1 (h ▸ hmem)
      rw [if_neg fun h ↦ hne (hfirst h), if_neg hne, ih hnodup.2 hrest hmem]

/-- Where no slot is there for the target, one is opened at the end. -/
theorem changeSlot_map_of_not_mem (hslot : ∀ other, (slotOf other).target = other)
    {targets : List Declaration}
    (hids : ∀ other ∈ targets, other.id = target.id → other = target)
    (hnew : target ∉ targets) :
    changeSlot run target change (targets.map slotOf) =
      targets.map slotOf ++ [change ⟨target, false, run.isHidden target, []⟩] := by
  induction targets with
  | nil => rfl
  | cons first rest ih =>
    obtain ⟨hfirst, hrest⟩ := List.forall_mem_cons.1 hids
    rw [List.mem_cons, not_or] at hnew
    rw [List.map_cons, changeSlot, hslot, if_neg fun h ↦ hnew.1 (hfirst h).symm,
      ih hrest hnew.2, List.cons_append]

/-- A note more changes what is gathered for its target and for nothing else. -/
theorem gathered_concat (run : Run) (notes : List Note) (note : Note) (target : Declaration) :
    Slot.gathered run (notes ++ [note]) target =
      if target = note.target then note.change (Slot.gathered run notes target)
      else Slot.gathered run notes target := by
  cases note with
  | exposed other =>
    by_cases h : target = other
    · simp [Slot.gathered, Note.target, Note.change, Note.exposes, Note.requestFor?, h]
    · simp [Slot.gathered, Note.target, Note.exposes, Note.requestFor?, h, Ne.symm h]
  | asked other request =>
    by_cases h : target = other
    · simp [Slot.gathered, Note.target, Note.change, Note.exposes, Note.requestFor?, h]
    · simp [Slot.gathered, Note.target, Note.exposes, Note.requestFor?, h, Ne.symm h]

/-- For a target that no note is about nothing is gathered. -/
theorem gathered_of_not_mem {notes : List Note} (hnew : target ∉ notes.map (·.target)) :
    Slot.gathered run notes target = ⟨target, false, run.isHidden target, []⟩ := by
  have hexposes : notes.any (·.exposes target) = false := by
    refine List.any_eq_false.2 fun note hnote hexposes ↦ hnew ?_
    rcases note with other | ⟨other, request⟩
    · obtain rfl : other = target := by simpa [Note.exposes] using hexposes
      exact List.mem_map.2 ⟨_, hnote, rfl⟩
    · cases hexposes
  have hrequests : notes.filterMap (·.requestFor? target) = [] := by
    refine List.filterMap_eq_nil_iff.2 fun note hnote ↦ ?_
    rcases note with other | ⟨other, request⟩
    · rfl
    · refine if_neg fun h ↦ hnew (List.mem_map.2 ⟨_, hnote, h⟩)
  rw [Slot.gathered, hexposes, hrequests]

/-- **Slots are notes gathered by target**, in order of first mention. The induction takes up one
more note at the end: its target is either among those mentioned or new. -/
theorem foldl_into (run : Run) {notes : List Note}
    (hids : ∀ a ∈ notes, ∀ b ∈ notes, a.target.id = b.target.id → a.target = b.target) :
    notes.foldl (Note.into run) [] =
      (notes.map (·.target)).eraseDups.map (Slot.gathered run notes) := by
  induction notes using List.reverseRecOn with
  | nil => rfl
  | append_singleton notes note ih =>
    have hold : ∀ a ∈ notes, ∀ b ∈ notes, a.target.id = b.target.id → a.target = b.target :=
      fun a ha b hb ↦ hids a (List.mem_append_left _ ha) b (List.mem_append_left _ hb)
    have hnote : ∀ other ∈ (notes.map (·.target)).eraseDups, other.id = note.target.id →
        other = note.target := by
      intro other hother hid
      obtain ⟨a, ha, rfl⟩ := List.mem_map.1 (List.mem_eraseDups.1 hother)
      exact hids a (List.mem_append_left _ ha) note (by simp) hid
    -- The slots so far are those of the targets so far, and the note changes one or opens one.
    rw [List.foldl_append, List.foldl_cons, List.foldl_nil, ih hold, Note.into,
      List.map_append, List.map_cons, List.map_nil, eraseDups_concat]
    split
    · rename_i hmem
      rw [changeSlot_map_of_mem (fun _ ↦ rfl) (nodup_eraseDups _) hnote
        (List.mem_eraseDups.2 hmem)]
      refine List.map_congr_left fun other _ ↦ ?_
      rw [gathered_concat]
    · rename_i hnew
      rw [changeSlot_map_of_not_mem (fun _ ↦ rfl) hnote fun h ↦ hnew (List.mem_eraseDups.1 h),
        List.map_append, List.map_cons, List.map_nil, gathered_concat, if_pos rfl,
        gathered_of_not_mem hnew]
      congr 1
      refine List.map_congr_left fun other hother ↦ ?_
      rw [gathered_concat, if_neg]
      rintro rfl
      exact hnew (List.mem_eraseDups.1 hother)

end Survey
end Exposure
