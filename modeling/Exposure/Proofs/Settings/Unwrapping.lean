import Exposure.Proofs.Settings.Layers
import Exposure.Settings.Wrapped

/-!
# What documents stand for

Unwrapping keeps the keys of every table, so whether a table is refused is told by the table as it
is written: it goes through just where no table below the top level has the identity key
(`isSome_entriesUnwrapped_iff`). Where none has the content key either, nothing changes
(`entriesUnwrapped_eq_self`). What no key comes up twice in stands for something with that property
(`distinct_entriesUnwrapped`).
-/

namespace Exposure.Settings

/-! ### Item by item -/

variable {items results : List Value} {entries said : Entries}

theorem forall_mem_itemsUnwrapped {p : Value → Prop} (h : itemsUnwrapped items = some results)
    (hp : ∀ item ∈ items, ∀ result, item.unwrapped = some result → p result) :
    ∀ result ∈ results, p result := by
  induction items generalizing results with
  | nil =>
    cases h
    exact List.forall_mem_nil _
  | cons item rest ih =>
    obtain ⟨hfirst, hrest⟩ := List.forall_mem_cons.1 hp
    obtain ⟨result, hresult, h⟩ := Option.bind_eq_some_iff.1 h
    obtain ⟨more, hmore, rfl⟩ := Option.map_eq_some_iff.1 h
    exact List.forall_mem_cons.2 ⟨hfirst result hresult, ih hmore hrest⟩

theorem isSome_itemsUnwrapped_iff :
    (itemsUnwrapped items).isSome ↔ ∀ item ∈ items, item.unwrapped.isSome := by
  induction items with
  | nil => exact ⟨fun _ ↦ List.forall_mem_nil _, fun _ ↦ rfl⟩
  | cons item rest ih =>
    rw [itemsUnwrapped, List.forall_mem_cons, ← ih]
    cases item.unwrapped <;> simp

/-- The values of entries are unwrapped as the items of a list are. -/
theorem itemsUnwrapped_values :
    itemsUnwrapped (entries.map (·.2)) = (entriesUnwrapped entries).map (·.map (·.2)) := by
  induction entries with
  | nil => rfl
  | cons entry rest ih =>
    rw [List.map_cons, itemsUnwrapped, entriesUnwrapped, ih]
    cases entry.2.unwrapped <;> cases entriesUnwrapped rest <;> rfl

theorem forall_mem_entriesUnwrapped {p : Value → Prop} (h : entriesUnwrapped entries = some said)
    (hp : ∀ entry ∈ entries, ∀ result, entry.2.unwrapped = some result → p result) :
    ∀ entry ∈ said, p entry.2 := by
  have hvalues : itemsUnwrapped (entries.map (·.2)) = some (said.map (·.2)) := by
    rw [itemsUnwrapped_values, h, Option.map_some]
  exact List.forall_mem_map.1 (forall_mem_itemsUnwrapped hvalues (List.forall_mem_map.2 hp))

theorem isSome_entriesUnwrapped_iff_forall :
    (entriesUnwrapped entries).isSome ↔ ∀ entry ∈ entries, entry.2.unwrapped.isSome := by
  rw [← Option.isSome_map, ← itemsUnwrapped_values, isSome_itemsUnwrapped_iff, List.forall_mem_map]

/-- Unwrapping keeps the keys. -/
theorem keys_entriesUnwrapped (h : entriesUnwrapped entries = some said) :
    said.map (·.1) = entries.map (·.1) := by
  induction entries generalizing said with
  | nil =>
    cases h
    rfl
  | cons entry rest ih =>
    obtain ⟨result, -, h⟩ := Option.bind_eq_some_iff.1 h
    obtain ⟨more, hmore, rfl⟩ := Option.map_eq_some_iff.1 h
    rw [List.map_cons, List.map_cons, ih hmore]

theorem get?_entriesUnwrapped_eq_none_iff (h : entriesUnwrapped entries = some said)
    (key : String) : said.get? key = none ↔ entries.get? key = none := by
  rw [Entries.get?_eq_none_iff, Entries.get?_eq_none_iff, keys_entriesUnwrapped h]

/-! ### Reserved keys -/

/-- No table in a value has a key. -/
abbrev Value.Lacks (key : String) : Value → Prop :=
  Value.Throughout fun entries ↦ entries.get? key = none

/-- No table in the values of entries has a key; the entries themselves may have it. -/
def Entries.LacksBelow (entries : Entries) (key : String) : Prop :=
  ∀ entry ∈ entries, entry.2.Lacks key

theorem Value.unwrapped_of_isSingle {value : Value} (h : value.isSingle) :
    value.unwrapped = some value := by
  cases value with
  | list | table => cases h
  | _ => rfl

/-- A value with the identity key in none of its tables is not refused. -/
theorem Value.Lacks.isSome_unwrapped {value : Value} (h : value.Lacks identityKey) :
    value.unwrapped.isSome := by
  induction h with
  | single h =>
    rw [unwrapped_of_isSingle h]
    rfl
  | list h ih =>
    rw [unwrapped, Option.isSome_map]
    exact isSome_itemsUnwrapped_iff.2 ih
  | table h hvalues ih =>
    obtain ⟨said, hsaid⟩ := Option.isSome_iff_exists.1 (isSome_entriesUnwrapped_iff_forall.2 ih)
    rw [unwrapped, hsaid, Option.bind_some, Entries.content?,
      (get?_entriesUnwrapped_eq_none_iff hsaid _).2 h]
    rfl

/-- A value that is not refused has the identity key in none of its tables. -/
theorem Value.lacks_of_isSome_unwrapped {value : Value} (h : value.unwrapped.isSome) :
    value.Lacks identityKey := by
  induction value using Value.inductionOn with
  | single value hsingle => exact .single hsingle
  | list items ih =>
    rw [unwrapped, Option.isSome_map] at h
    exact .list fun item hitem ↦ ih item hitem (isSome_itemsUnwrapped_iff.1 h item hitem)
  | table entries ih =>
    rw [unwrapped] at h
    obtain ⟨result, hresult⟩ := Option.isSome_iff_exists.1 h
    obtain ⟨said, hsaid, hcontent⟩ := Option.bind_eq_some_iff.1 hresult
    have hvalues := isSome_entriesUnwrapped_iff_forall.1 (Option.isSome_of_mem hsaid)
    refine .table ?_ fun entry hentry ↦ ih entry hentry (hvalues entry hentry)
    rw [Entries.content?] at hcontent
    split at hcontent
    · cases hcontent
    · rename_i hnone
      exact (get?_entriesUnwrapped_eq_none_iff hsaid _).1 (Option.not_isSome_iff_eq_none.1 hnone)

/-- **A document is refused just if a table below its top level has the identity key.** -/
theorem isSome_entriesUnwrapped_iff :
    (entriesUnwrapped entries).isSome ↔ entries.LacksBelow identityKey :=
  isSome_entriesUnwrapped_iff_forall.trans
    ⟨fun h entry hentry ↦ Value.lacks_of_isSome_unwrapped (h entry hentry),
      fun h entry hentry ↦ (h entry hentry).isSome_unwrapped⟩

theorem itemsUnwrapped_eq_self (h : ∀ item ∈ items, item.unwrapped = some item) :
    itemsUnwrapped items = some items := by
  induction items with
  | nil => rfl
  | cons item rest ih =>
    obtain ⟨hfirst, hrest⟩ := List.forall_mem_cons.1 h
    rw [itemsUnwrapped, hfirst, Option.bind_some, ih hrest, Option.map_some]

theorem entriesUnwrapped_eq_self_of_forall
    (h : ∀ entry ∈ entries, entry.2.unwrapped = some entry.2) :
    entriesUnwrapped entries = some entries := by
  induction entries with
  | nil => rfl
  | cons entry rest ih =>
    obtain ⟨hfirst, hrest⟩ := List.forall_mem_cons.1 h
    rw [entriesUnwrapped, hfirst, Option.bind_some, ih hrest, Option.map_some]

theorem Value.Lacks.unwrapped_eq_self {value : Value} (h : value.Lacks identityKey)
    (hcontent : value.Lacks contentKey) : value.unwrapped = some value := by
  induction h with
  | single h => exact unwrapped_of_isSingle h
  | list h ih =>
    rw [unwrapped, itemsUnwrapped_eq_self fun item hitem ↦
      ih item hitem (hcontent.of_list item hitem), Option.map_some]
  | table h hvalues ih =>
    rw [unwrapped, entriesUnwrapped_eq_self_of_forall fun entry hentry ↦
      ih entry hentry (hcontent.of_table.2 entry hentry), Option.bind_some, Entries.content?, h,
      hcontent.of_table.1]
    rfl

/-- **A document with neither reserved key below its top level stands for itself.** -/
theorem entriesUnwrapped_eq_self (h : entries.LacksBelow identityKey)
    (hcontent : entries.LacksBelow contentKey) : entriesUnwrapped entries = some entries :=
  entriesUnwrapped_eq_self_of_forall fun entry hentry ↦
    (h entry hentry).unwrapped_eq_self (hcontent entry hentry)

/-! ### Keys that come up once -/

theorem Value.Distinct.unwrapped {value result : Value} (h : value.Distinct)
    (hresult : value.unwrapped = some result) : result.Distinct := by
  induction h generalizing result with
  | single h =>
    rw [unwrapped_of_isSingle h] at hresult
    exact Option.some.inj hresult ▸ .single h
  | list h ih =>
    obtain ⟨results, hresults, rfl⟩ := Option.map_eq_some_iff.1 hresult
    exact .list (forall_mem_itemsUnwrapped hresults fun item hitem _ ↦ ih item hitem)
  | table h hvalues ih =>
    rw [Value.unwrapped] at hresult
    obtain ⟨said, hsaid, hcontent⟩ := Option.bind_eq_some_iff.1 hresult
    have hdistinct : (Value.table said).Distinct :=
      .table (keys_entriesUnwrapped hsaid ▸ h)
        (forall_mem_entriesUnwrapped hsaid fun entry hentry _ ↦ ih entry hentry)
    rw [Entries.content?] at hcontent
    split at hcontent
    · cases hcontent
    · obtain rfl := Option.some.inj hcontent
      rcases hfound : Entries.get? said contentKey with - | found
      · exact hdistinct
      · exact hdistinct.get? hfound

/-- What documents stand for has no key twice if they have none. -/
theorem distinct_entriesUnwrapped (h : (Value.table entries).Distinct)
    (hsaid : entriesUnwrapped entries = some said) : (Value.table said).Distinct :=
  .table (keys_entriesUnwrapped hsaid ▸ h.of_table.1)
    (forall_mem_entriesUnwrapped hsaid fun entry hentry _ ↦
      Value.Distinct.unwrapped (h.of_table.2 entry hentry))

end Exposure.Settings
