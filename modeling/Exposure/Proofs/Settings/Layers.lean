import Mathlib.Data.List.Basic
import Exposure.Settings.Value

/-!
# Layers laid over each other

What a value says along a path of keys is one of three things. It **bears** something there, if
tables lead to it (`Value.Bears`); it **spares** the path, if the tables that are there say nothing
about it (`Value.Spares`); or something that is no table stands in the way.

Where no table has a key twice (`Value.Distinct`), laying one value over another is told by these:
what the upper one bears is kept, if it is a single value (`Value.Bears.over`), and where the upper
one spares the path the lower one decides (`Value.Spares.bears_over`). No table has a key twice
afterwards either (`Value.Distinct.over`), so this goes on for further layers.
-/

namespace Exposure.Settings

/-! ### Entries -/

namespace Entries

theorem get?_put (entries : Entries) (key other : String) (value : Value) :
    (entries.put key value).get? other =
      if key = other then some value else entries.get? other := by
  induction entries with
  | nil => rfl
  | cons entry rest ih =>
    obtain ⟨first, old⟩ := entry
    rw [put]
    split
    · rename_i hfirst
      subst hfirst
      rw [get?, get?]
      split <;> rfl
    · rename_i hfirst
      rw [get?, get?, ih]
      split
      · rename_i hother
        rw [if_neg fun h ↦ hfirst (hother.trans h.symm)]
      · rfl

theorem get?_eq_none_iff {entries : Entries} {key : String} :
    entries.get? key = none ↔ key ∉ entries.map (·.1) := by
  induction entries with
  | nil => simp [get?]
  | cons entry rest ih =>
    rw [get?, List.map_cons, List.mem_cons, not_or]
    split
    · rename_i hfirst
      simp [hfirst]
    · rename_i hfirst
      rw [ih]
      exact (and_iff_right (Ne.symm hfirst)).symm

theorem mem_of_get? {entries : Entries} {key : String} {value : Value}
    (h : entries.get? key = some value) : (key, value) ∈ entries := by
  induction entries with
  | nil => cases h
  | cons entry rest ih =>
    obtain ⟨first, old⟩ := entry
    rw [get?] at h
    split at h
    · rename_i hfirst
      obtain rfl := Option.some.inj h
      exact hfirst ▸ List.mem_cons_self
    · exact List.mem_cons_of_mem _ (ih h)

theorem mem_put {entries : Entries} {key : String} {value : Value} {entry : String × Value}
    (h : entry ∈ entries.put key value) : entry = (key, value) ∨ entry ∈ entries := by
  induction entries with
  | nil => exact .inl (List.mem_singleton.1 h)
  | cons first rest ih =>
    obtain ⟨other, old⟩ := first
    rw [put] at h
    split at h
    · exact (List.mem_cons.1 h).imp_right (List.mem_cons_of_mem _)
    · rcases List.mem_cons.1 h with rfl | h
      · exact .inr List.mem_cons_self
      · exact (ih h).imp_right (List.mem_cons_of_mem _)

/-- Putting a value under a key adds the key, if it is new. -/
theorem nodup_put {entries : Entries} (h : (entries.map (·.1)).Nodup) (key : String)
    (value : Value) : ((entries.put key value).map (·.1)).Nodup := by
  induction entries with
  | nil => simp [put]
  | cons first rest ih =>
    obtain ⟨other, old⟩ := first
    rw [put]
    split
    · rename_i hother
      exact hother ▸ h
    · rename_i hother
      obtain ⟨hnew, hrest⟩ := List.nodup_cons.1 h
      refine List.nodup_cons.2 ⟨fun hmem ↦ ?_, ih hrest⟩
      obtain ⟨entry, hentry, hkey⟩ := List.mem_map.1 hmem
      rcases mem_put hentry with rfl | hentry
      · exact hother hkey.symm
      · exact hnew (hkey ▸ List.mem_map_of_mem hentry)

end Entries

/-! ### Values throughout -/

namespace Value

/-- Whether a value is neither a list nor a table. -/
def isSingle : Value → Bool
  | list _ | table _ => false
  | _ => true

/-- Induction over the items of lists and the entries of tables. -/
@[elab_as_elim]
theorem inductionOn {motive : Value → Prop} (value : Value)
    (single : ∀ value, value.isSingle → motive value)
    (list : ∀ items, (∀ item ∈ items, motive item) → motive (list items))
    (table : ∀ entries, (∀ entry ∈ entries, motive entry.2) → motive (table entries)) :
    motive value :=
  @Value.rec motive (fun items ↦ ∀ item ∈ items, motive item)
    (fun entries ↦ ∀ entry ∈ entries, motive entry.2) (fun entry ↦ motive entry.2)
    (fun _ ↦ single _ rfl) (fun _ ↦ single _ rfl) (fun _ ↦ single _ rfl) (fun _ ↦ single _ rfl)
    (fun _ ↦ single _ rfl) (fun _ ↦ single _ rfl) list table
    (List.forall_mem_nil _) (fun _ _ hitem hrest ↦ List.forall_mem_cons.2 ⟨hitem, hrest⟩)
    (List.forall_mem_nil _) (fun _ _ hentry hrest ↦ List.forall_mem_cons.2 ⟨hentry, hrest⟩)
    (fun _ _ hvalue ↦ hvalue) value

/-- Something holds of the entries of every table in a value. -/
inductive Throughout (p : Entries → Prop) : Value → Prop
  | single {value : Value} (h : value.isSingle) : Throughout p value
  | list {items : List Value} (h : ∀ item ∈ items, Throughout p item) : Throughout p (.list items)
  | table {entries : Entries} (h : p entries)
      (hvalues : ∀ entry ∈ entries, Throughout p entry.2) : Throughout p (.table entries)

/-- No table in a value has a key twice. -/
abbrev Distinct : Value → Prop := Throughout fun entries ↦ (entries.map (·.1)).Nodup

/-- Tables lead along a path of keys to a value. -/
def Bears : Value → List String → Value → Prop
  | value, [], found => value = found
  | value, key :: path, found => ∃ entries inner,
      value = .table entries ∧ Entries.get? entries key = some inner ∧ inner.Bears path found

/-- A value is a table that leads along a path of keys to nothing, and to nothing that is no
table. -/
def Spares : Value → List String → Prop
  | _, [] => False
  | value, key :: path => ∃ entries,
      value = .table entries ∧ ∀ inner, Entries.get? entries key = some inner → inner.Spares path

variable {below : Option Value} {above lower : Value} {path : List String} {found : Value}

theorem Throughout.of_table {p : Entries → Prop} {entries : Entries}
    (h : Throughout p (.table entries)) : p entries ∧ ∀ entry ∈ entries, Throughout p entry.2 := by
  cases h with
  | single h => cases h
  | table h hvalues => exact ⟨h, hvalues⟩

theorem Throughout.of_list {p : Entries → Prop} {items : List Value}
    (h : Throughout p (.list items)) : ∀ item ∈ items, Throughout p item := by
  cases h with
  | single h => cases h
  | list h => exact h

theorem Throughout.get? {p : Entries → Prop} {entries : Entries}
    (h : Throughout p (.table entries)) {key : String} {value : Value}
    (hvalue : Entries.get? entries key = some value) : Throughout p value :=
  h.of_table.2 _ (Entries.mem_of_get? hvalue)

/-- What a path leads to is found at it. -/
theorem Bears.at?_eq {value : Value} (h : value.Bears path found) :
    value.at? path = some found := by
  induction path generalizing value with
  | nil => exact congrArg some h
  | cons key path ih =>
    obtain ⟨entries, inner, rfl, hinner, h⟩ := h
    rw [at?, child?, hinner]
    exact ih h

/-- At a path that is spared nothing is found. -/
theorem Spares.at?_eq {value : Value} (h : value.Spares path) : value.at? path = none := by
  induction path generalizing value with
  | nil => exact h.elim
  | cons key path ih =>
    obtain ⟨entries, rfl, h⟩ := h
    rw [at?, child?]
    rcases hinner : Entries.get? entries key with - | inner
    · rfl
    · exact ih (h inner hinner)

/-- Putting in a value that has no key twice brings in none. -/
theorem Distinct.put {entries : Entries} (h : (table entries).Distinct) {value : Value}
    (hvalue : value.Distinct) (key : String) :
    (table (Entries.put entries key value)).Distinct := by
  obtain ⟨hkeys, hvalues⟩ := h.of_table
  refine .table (Entries.nodup_put hkeys key value) fun entry hentry ↦ ?_
  rcases Entries.mem_put hentry with rfl | hentry
  · exact hvalue
  · exact hvalues entry hentry

theorem distinct_nil : (table []).Distinct :=
  .table List.nodup_nil (List.forall_mem_nil _)

/-! ### One value over another -/

theorem over_none (value : Value) : Value.over none value = value := by
  cases value <;> rfl

theorem over_single (below : Option Value) (h : above.isSingle) :
    Value.over below above = above := by
  cases above with
  | list | table => cases h
  | _ => rfl

/-- Where the upper entries have a key once, it leads to what they have over what was there. -/
theorem get?_entriesOver {below above : Entries} (h : (above.map (·.1)).Nodup) (key : String) :
    (entriesOver below above).get? key =
      ((above.get? key).map (Value.over (below.get? key))).or (below.get? key) := by
  induction above generalizing below with
  | nil => rfl
  | cons entry rest ih =>
    obtain ⟨first, value⟩ := entry
    obtain ⟨hnew, hrest⟩ := List.nodup_cons.1 h
    rw [entriesOver, ih hrest, Entries.get?_put, Entries.get?]
    by_cases hfirst : first = key
    · rw [if_pos hfirst, if_pos hfirst, ← hfirst, Entries.get?_eq_none_iff.2 hnew]
      rfl
    · rw [if_neg hfirst, if_neg hfirst]

/-- A table over a table is their entries laid over each other. -/
theorem over_table (old entries : Entries) :
    Value.over (some (.table old)) (.table entries) = .table (entriesOver old entries) := rfl

/-- Laying one value over another brings in no key twice. -/
theorem Distinct.over (habove : above.Distinct) (hbelow : ∀ lower ∈ below, lower.Distinct) :
    (Value.over below above).Distinct := by
  induction habove generalizing below with
  | single h =>
    rw [over_single below h]
    exact .single h
  | list h => exact .list h
  | @table entries hkeys hvalues ih =>
    rcases below with - | lower
    · exact .table hkeys hvalues
    · cases lower with
      | table old =>
        -- The entries come in one by one, and each time all is distinct.
        have hold : (table old).Distinct := hbelow _ rfl
        rw [over_table]
        clear hkeys hvalues hbelow
        induction entries generalizing old with
        | nil => exact hold
        | cons entry rest ihrest =>
          obtain ⟨hentry, hrest⟩ := List.forall_mem_cons.1 ih
          refine ihrest hrest _ (hold.put (hentry fun lower hlower ↦ ?_) entry.1)
          exact hold.get? hlower
      | _ => exact .table hkeys hvalues

/-- **What the upper value bears is kept**, if it is a single value. -/
theorem Bears.over (habove : above.Distinct) (h : above.Bears path found)
    (hsingle : found.isSingle) : (Value.over below above).Bears path found := by
  induction path generalizing below above with
  | nil =>
    obtain rfl : above = found := h
    exact over_single below hsingle
  | cons key path ih =>
    have hkept := h
    obtain ⟨entries, inner, rfl, hinner, h⟩ := h
    rcases below with - | lower
    · exact hkept
    · cases lower with
      | table old =>
        rw [over_table]
        refine ⟨_, Value.over (Entries.get? old key) inner, rfl, ?_, ih (habove.get? hinner) h⟩
        rw [get?_entriesOver habove.of_table.1, hinner]
        rfl
      | _ => exact hkept

/-- **Where the upper value spares a path**, the lower one keeps what it bears. -/
theorem Spares.bears_over (habove : above.Distinct) (h : above.Spares path)
    (hlower : lower.Bears path found) : (Value.over (some lower) above).Bears path found := by
  induction path generalizing lower above with
  | nil => exact h.elim
  | cons key path ih =>
    obtain ⟨entries, rfl, h⟩ := h
    obtain ⟨old, inner, rfl, hinner, hlower⟩ := hlower
    rw [over_table]
    rcases hupper : Entries.get? entries key with - | upper
    · refine ⟨_, inner, rfl, ?_, hlower⟩
      rw [get?_entriesOver habove.of_table.1, hupper, hinner]
      rfl
    · refine ⟨_, Value.over (some inner) upper, rfl, ?_,
        ih (habove.get? hupper) (h upper hupper) hlower⟩
      rw [get?_entriesOver habove.of_table.1, hupper, hinner]
      rfl

/-- Where both values spare a path, both together do. -/
theorem Spares.over (habove : above.Distinct) (h : above.Spares path)
    (hlower : lower.Spares path) : (Value.over (some lower) above).Spares path := by
  induction path generalizing lower above with
  | nil => exact h.elim
  | cons key path ih =>
    obtain ⟨entries, rfl, h⟩ := h
    obtain ⟨old, rfl, hlower⟩ := hlower
    rw [over_table]
    refine ⟨_, rfl, fun value hvalue ↦ ?_⟩
    rw [get?_entriesOver habove.of_table.1, Option.or_eq_some_iff, Option.map_eq_some_iff] at hvalue
    rcases hvalue with ⟨upper, hupper, rfl⟩ | ⟨-, hvalue⟩
    · rcases hold : Entries.get? old key with - | value
      · rw [over_none]
        exact h upper hupper
      · exact ih (habove.get? hupper) (h upper hupper) (hlower value hold)
    · exact hlower value hvalue

end Value
end Exposure.Settings
