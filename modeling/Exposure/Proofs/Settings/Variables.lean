import Mathlib.Data.List.Induction
import Exposure.Proofs.Settings.Layers
import Exposure.Settings.Environment

/-!
# What variables set

The layer of the environment is built up variable by variable: each that names a path lays its value
over what is there. So at a path of keys the layer bears the value of the last variable for it, and
without one it spares the path, as long as all variables either name just this path or one that
neither leads to it nor goes on from it (`Environment.entries_at`).

That no value of a variable has a key twice is due to how tables in braces are put together
(`Environment.distinct_value`).
-/

namespace Exposure.Settings

namespace Environment

/-! ### Values of variables -/

/-- What holds of all that a reader of items reads holds of the items. -/
theorem forall_items {α : Type} {p : α → Prop} {closing : Char} {item : Reader α}
    (hitem : ∀ chars x rest, item chars = some (x, rest) → p x) {steps : Nat} {chars : List Char}
    {values : List α} {rest : List Char}
    (h : items closing item steps chars = some (values, rest)) :
    ∀ x ∈ values, p x := by
  induction steps generalizing chars values with
  | zero => cases h
  | succ steps ih =>
    rw [items] at h
    split at h
    · cases h
      exact List.forall_mem_nil _
    · obtain ⟨⟨first, behind⟩, hfirst, h⟩ := Option.bind_eq_some_iff.1 h
      have hp := hitem chars first behind hfirst
      dsimp only at h
      split at h
      · obtain ⟨⟨more, other⟩, hmore, heq⟩ := Option.map_eq_some_iff.1 h
        cases heq
        exact List.forall_mem_cons.2 ⟨hp, ih hmore⟩
      · obtain ⟨other, -, heq⟩ := Option.map_eq_some_iff.1 h
        cases heq
        exact List.forall_mem_cons.2 ⟨hp, List.forall_mem_nil _⟩

/-- What holds of all values that are read holds of those of entries. -/
theorem of_entry {p : Value → Prop} {value : Reader Value}
    (hvalue : ∀ chars x rest, value chars = some (x, rest) → p x) {chars : List Char}
    {found : String × Value} {rest : List Char} (h : entry value chars = some (found, rest)) :
    p found.2 := by
  obtain ⟨⟨key, behind⟩, -, h⟩ := Option.bind_eq_some_iff.1 h
  obtain ⟨behind, -, h⟩ := Option.bind_eq_some_iff.1 h
  obtain ⟨⟨read, other⟩, hread, heq⟩ := Option.map_eq_some_iff.1 h
  cases heq
  exact hvalue _ _ _ hread

/-- A table that is put together entry by entry has no key twice. -/
theorem distinct_tableOf {entries : List (String × Value)}
    (hentries : ∀ entry ∈ entries, entry.2.Distinct) :
    (Value.table (tableOf entries)).Distinct := by
  suffices hfold : ∀ below : Entries, (Value.table below).Distinct →
      (Value.table (entries.foldl (fun below entry ↦ Entries.put below entry.1 entry.2)
        below)).Distinct from
    hfold [] Value.distinct_nil
  induction entries with
  | nil => exact fun below hbelow ↦ hbelow
  | cons first rest ih =>
    intro below hbelow
    obtain ⟨hfirst, hrest⟩ := List.forall_mem_cons.1 hentries
    exact ih hrest _ (hbelow.put hfirst first.1)

theorem isSingle_plain (chars : List Char) : (plain chars).isSingle := by
  unfold plain
  split
  · rfl
  · split
    · rfl
    · split <;> rfl

/-- What brackets and braces mark has no key twice. -/
theorem distinct_marked {nesting : Nat} {chars : List Char} {value : Value} {rest : List Char}
    (h : marked nesting chars = some (value, rest)) : value.Distinct := by
  induction nesting generalizing chars value rest with
  | zero => cases h
  | succ nesting ih =>
    have hinner (chars : List Char) (x : Value) (rest : List Char)
        (h : (marked nesting (skipSpace chars)).map (fun read ↦ (read.1, skipSpace read.2)) =
          some (x, rest)) : x.Distinct := by
      obtain ⟨⟨read, other⟩, hread, heq⟩ := Option.map_eq_some_iff.1 h
      cases heq
      exact ih hread
    -- Braces give a table, brackets a list, and all else is a single value.
    unfold marked at h
    dsimp only at h
    split at h
    · cases h
      exact .single rfl
    · cases h
      exact .single rfl
    · split at h
      · obtain ⟨⟨entries, other⟩, hentries, heq⟩ := Option.map_eq_some_iff.1 h
        cases heq
        exact distinct_tableOf (forall_items (fun _ _ _ ↦ of_entry hinner) hentries)
      · obtain ⟨⟨values, other⟩, hvalues, heq⟩ := Option.map_eq_some_iff.1 h
        cases heq
        exact .list (forall_items hinner hvalues)
      · obtain ⟨⟨text, other⟩, -, heq⟩ := Option.map_eq_some_iff.1 h
        cases heq
        exact .single rfl
      · cases h
        exact .single rfl
      · cases h
      · cases h
        exact .single (isSingle_plain _)

/-- The value of a variable has no key twice. -/
theorem distinct_value (source : String) : (value source).Distinct := by
  unfold value
  split
  · rename_i hmarked
    split
    · exact distinct_marked hmarked
    · exact .single rfl
  · exact .single rfl

/-! ### Paths of variables -/

/-- A path that neither leads to another nor goes on from it. -/
def Apart (path other : List String) : Prop := ¬ path <+: other ∧ ¬ other <+: path

theorem distinct_nested {value : Value} (h : value.Distinct) (path : List String) :
    (nested value path).Distinct := by
  induction path with
  | nil => exact h
  | cons key path ih => exact .table (by simp) (List.forall_mem_singleton.2 ih)

/-- What is nested is found at its path. -/
theorem bears_nested (value : Value) (path : List String) :
    (nested value path).Bears path value := by
  induction path with
  | nil => rfl
  | cons key path ih => exact ⟨_, _, rfl, if_pos rfl, ih⟩

/-- What is nested spares the paths that are apart from its own. -/
theorem spares_nested {path other : List String} (h : Apart path other) (value : Value) :
    (nested value path).Spares other := by
  induction path generalizing other with
  | nil => exact absurd List.nil_prefix h.1
  | cons key path ih =>
    cases other with
    | nil => exact absurd List.nil_prefix h.2
    | cons first other =>
      refine ⟨_, rfl, fun inner hinner ↦ ?_⟩
      rw [Entries.get?] at hinner
      split at hinner
      · rename_i hkey
        obtain rfl := Option.some.inj hinner
        subst hkey
        exact ih ⟨fun hprefix ↦ h.1 ((List.cons_prefix_cons).2 ⟨rfl, hprefix⟩),
          fun hprefix ↦ h.2 ((List.cons_prefix_cons).2 ⟨rfl, hprefix⟩)⟩
      · cases hinner

/-! ### The layer of the environment -/

/-- What the last variable for a path sets. -/
def setting? (environment : List (String × String)) (path : List String) : Option Value :=
  (environment.reverse.find? fun setter ↦ path? setter.1 = some path).map fun setter ↦
    value setter.2

/-- Where no variable sets anything, none sets what a path leads to. -/
theorem setting?_of_none {environment : List (String × String)}
    (h : ∀ setter ∈ environment, path? setter.1 = none) (path : List String) :
    setting? environment path = none := by
  rw [setting?, Option.map_eq_none_iff, List.find?_eq_none]
  intro setter hsetter hpath
  rw [h setter (List.mem_reverse.1 hsetter), decide_eq_true_iff] at hpath
  cases hpath

theorem setting?_concat (environment : List (String × String)) (setter : String × String)
    (path : List String) :
    setting? (environment ++ [setter]) path =
      if path? setter.1 = some path then some (value setter.2)
      else setting? environment path := by
  rw [setting?, List.reverse_concat, List.find?_cons]
  by_cases h : path? setter.1 = some path
  · rw [if_pos h, decide_eq_true h]
    rfl
  · rw [if_neg h, decide_eq_false h]
    rfl

/-- A variable that names no keys changes nothing. -/
theorem entries_concat_of_none {environment : List (String × String)} {setter : String × String}
    (h : (path? setter.1).getD [] = []) :
    entries (environment ++ [setter]) = entries environment := by
  rw [entries, List.foldl_append, List.foldl_cons, List.foldl_nil]
  dsimp only
  split
  · rename_i hpath
    rw [hpath] at h
    cases h
  · rfl

/-- A variable lays its value, at its path, over what the others have set. -/
theorem table_entries_concat {environment : List (String × String)} {setter : String × String}
    {path : List String} (h : path? setter.1 = some path) (hpath : path ≠ []) :
    Value.table (entries (environment ++ [setter])) =
      Value.over (some (.table (entries environment))) (nested (value setter.2) path) := by
  obtain ⟨key, path, rfl⟩ := List.exists_cons_of_ne_nil hpath
  rw [entries, List.foldl_append, List.foldl_cons, List.foldl_nil]
  dsimp only
  rw [h]
  rfl

/-- Every variable of an environment names a path with a single value, or one apart from it. -/
def KeepsTo (environment : List (String × String)) (path : List String) : Prop :=
  ∀ setter ∈ environment, ∀ named, path? setter.1 = some named →
    (named = path ∧ (value setter.2).isSingle) ∨ Apart named path

theorem distinct_entries (environment : List (String × String)) :
    (Value.table (entries environment)).Distinct := by
  induction environment using List.reverseRecOn with
  | nil => exact Value.distinct_nil
  | append_singleton environment setter ih =>
    rcases hpath : path? setter.1 with - | path
    · rwa [entries_concat_of_none (by rw [hpath]; rfl)]
    · by_cases hsome : path = []
      · rwa [entries_concat_of_none (by rw [hpath]; exact hsome)]
      · rw [table_entries_concat hpath hsome]
        exact (distinct_nested (distinct_value setter.2) path).over fun lower hlower ↦
          Option.some.inj hlower ▸ ih

/-- **What the environment says at a path** is what the last variable for it sets. The induction
takes the variables in order, so the last is the uppermost. -/
theorem entries_at {environment : List (String × String)} {path : List String} (hpath : path ≠ [])
    (h : KeepsTo environment path) :
    match setting? environment path with
    | some found => (Value.table (entries environment)).Bears path found
    | none => (Value.table (entries environment)).Spares path := by
  induction environment using List.reverseRecOn with
  | nil =>
    obtain ⟨key, path, rfl⟩ := List.exists_cons_of_ne_nil hpath
    exact ⟨[], rfl, fun inner hinner ↦ nomatch hinner⟩
  | append_singleton environment setter ih =>
    have hearlier := ih fun other hother ↦ h other (List.mem_append_left _ hother)
    rw [setting?_concat]
    rcases hnamed : path? setter.1 with - | named
    · rwa [if_neg (by simp), entries_concat_of_none (by rw [hnamed]; rfl)]
    · have hdistinct := distinct_nested (distinct_value setter.2) named
      rcases h setter (List.mem_append_right _ (List.mem_singleton_self _)) named hnamed with
        ⟨rfl, hsingle⟩ | hapart
      · rw [if_pos rfl, table_entries_concat hnamed hpath]
        exact (bears_nested _ _).over hdistinct hsingle
      · have hother : named ≠ path := fun heq ↦ hapart.1 (heq ▸ List.prefix_rfl)
        have hsome : named ≠ [] := fun heq ↦ hapart.1 (heq ▸ List.nil_prefix)
        have hspares := spares_nested hapart (value setter.2)
        rw [if_neg fun heq ↦ hother (Option.some.inj heq), table_entries_concat hnamed hsome]
        split at hearlier
        · exact hspares.bears_over hdistinct hearlier
        · exact hspares.over hdistinct hearlier

end Environment
end Exposure.Settings
