import Exposure.Proofs.Alias.Walks
import Exposure.Proofs.Plan.Exposed

/-!
# Finding declarations by their own names

A name loses its global marker twice: once when the declaration is stored, and once more when it is
looked up. For most names the second time makes no difference. A name that was supplied with two
markers still starts with one when it is stored, and then what is looked up is not what was stored.

So a declaration is found under its stored name exactly if that name does not start with the marker,
while with one more marker in front it is always found. The same holds of the entries of plans
(`Graph.found_by_own_name`). Where it fails there may be another declaration under the shorter name,
and an alias of the one is then taken for an alias of the other (`Document.twinsGraph_mistaken`).
-/

namespace Exposure

/-! ### The global marker -/

namespace Name

/-- A name starts with the global marker. -/
def IsGlobal (name : String) : Prop := [':', ':'] <+: name.toList

instance (name : String) : Decidable (IsGlobal name) :=
  inferInstanceAs (Decidable (_ <+: _))

/-- **A name without its global marker is itself exactly if it has none.** -/
theorem withoutGlobal_eq_self_iff {name : String} :
    withoutGlobal name = name ↔ ¬ IsGlobal name := by
  have hchars : withoutGlobal name = name ↔ dropGlobal name.toList = name.toList := by
    rw [withoutGlobal, ← String.toList_inj, String.toList_ofList]
  rw [hchars, IsGlobal]
  unfold dropGlobal
  split
  · rename_i rest heq
    -- What is left is shorter than the name.
    have hshorter : rest ≠ ':' :: ':' :: rest := by
      intro h
      have hlength := congrArg List.length h
      rw [List.length_cons, List.length_cons] at hlength
      omega
    rw [heq]
    exact iff_of_false hshorter fun hmarked ↦ hmarked ⟨rest, rfl⟩
  · rename_i hother
    refine iff_of_true rfl ?_
    rintro ⟨rest, hrest⟩
    exact hother rest hrest.symm

end Name

/-! ### Looking up -/

/-- In a table by names that are all different, what a name without its marker finds. -/
theorem find?_withoutGlobal_eq_some_iff {α : Type} {key : α → String} {xs : List α}
    (hnodup : (xs.map key).Nodup) {x : α} (hmem : x ∈ xs) :
    (xs.find? (fun y ↦ key y = Name.withoutGlobal (key x)) = some x ↔ ¬ Name.IsGlobal (key x)) ∧
      xs.find? (fun y ↦ key y = Name.withoutGlobal ("::" ++ key x)) = some x := by
  rw [find?_eq_some_of_nodup hnodup, find?_eq_some_of_nodup hnodup, Name.withoutGlobal_append,
    ← Name.withoutGlobal_eq_self_iff]
  exact ⟨⟨fun h ↦ h.2.symm, fun h ↦ ⟨hmem, h.symm⟩⟩, hmem, rfl⟩

/-- No two entries have the same name. -/
theorem Plan.Decided.nodup_qualifiedName {graph : Graph} {depth : Nat} {byDefault : Bool}
    {plan : Plan} (h : plan.Decided graph depth byDefault) (hgraph : graph.WellFormed) :
    (plan.entries.map (·.qualifiedName)).Nodup := by
  have hnames : plan.entries.map (·.qualifiedName) =
      (graph.exposed depth byDefault).map (·.name) := by
    rw [h.entries, List.map_map]
    rfl
  rw [hnames]
  refine (Graph.nodup_wanted.filter _).map_on fun a ha b hb hname ↦ ?_
  exact hgraph.declaration_unique_of_name ((Graph.mem_exposed hgraph).1 ha).1
    ((Graph.mem_exposed hgraph).1 hb).1 hname

namespace Graph

variable {graph : Graph} {asking declaration : Declaration}

/-- An alias points at the declaration under the name that is written as its target. -/
theorem directTarget?_eq_lookup (halias : asking.isAlias) {name : String}
    (htarget : asking.target = some name) : graph.directTarget? asking = graph.lookup name := by
  rw [directTarget?, if_pos halias, Declaration.targetText, htarget]
  rfl

/-- The chain of an alias that points at what is no alias ends there, under any limit. -/
theorem resolve_of_directTarget? (hpoints : graph.directTarget? asking = some declaration)
    (hother : declaration.isAlias = false) (depth : Nat) :
    Alias.resolve graph depth asking = .ok ⟨[asking], declaration⟩ := by
  rw [directTarget?, Option.ite_none_right_eq_some] at hpoints
  obtain ⟨halias, hfound⟩ := hpoints
  rw [Alias.resolve, if_pos halias, Alias.walk_of_not_isAlias hfound hother]

/-- **Declarations and entries are found by their own names if these do not start with the global
marker, and only then.** With one more marker in front every name finds what has it. An alias whose
target is written as the name of a declaration points at this declaration under the same condition,
and if the declaration is no alias the chain ends there. -/
theorem found_by_own_name (h : graph.Built) :
    (∀ declaration ∈ graph.declarations,
      (graph.lookup declaration.name = some declaration ↔ ¬ Name.IsGlobal declaration.name) ∧
      graph.lookup ("::" ++ declaration.name) = some declaration ∧
      ∀ asking : Declaration, asking.isAlias → asking.target = some declaration.name →
        (graph.directTarget? asking = some declaration ↔ ¬ Name.IsGlobal declaration.name) ∧
        (¬ Name.IsGlobal declaration.name → declaration.isAlias = false →
          ∀ depth, Alias.resolve graph depth asking = .ok ⟨[asking], declaration⟩)) ∧
    ∀ depth byDefault plan, (Run.ofGraph graph depth byDefault).plan = .ok plan →
      ∀ entry ∈ plan.entries,
        (plan.entryNamed entry.qualifiedName = some entry ↔
          ¬ Name.IsGlobal entry.qualifiedName) ∧
        plan.entryNamed ("::" ++ entry.qualifiedName) = some entry := by
  have hgraph := h.wellFormed
  constructor
  · intro declaration hmem
    obtain ⟨hown, hmarked⟩ := find?_withoutGlobal_eq_some_iff hgraph.declaration_names hmem
    refine ⟨hown, hmarked, fun asking halias htarget ↦ ?_⟩
    have hpoints : graph.directTarget? asking = some declaration ↔
        ¬ Name.IsGlobal declaration.name := by
      rw [directTarget?_eq_lookup halias htarget]
      exact hown
    exact ⟨hpoints, fun hplain hother ↦ resolve_of_directTarget? (hpoints.2 hplain) hother⟩
  · intro depth byDefault plan hplan entry hentry
    have hdecided := Run.decided_of_plan hgraph hplan
    exact find?_withoutGlobal_eq_some_iff (hdecided.nodup_qualifiedName hgraph) hentry

end Graph

/-- In the sample every declaration and the one entry are found by their own names. -/
theorem Document.sampleGraph_found :
    (∀ declaration ∈ sampleGraph.declarations,
      sampleGraph.lookup declaration.name = some declaration) ∧
    ∃ plan, (Run.ofGraph sampleGraph 64 false).plan = .ok plan ∧
      ∀ entry ∈ plan.entries, plan.entryNamed entry.qualifiedName = some entry := by
  obtain ⟨hdeclarations, hentries⟩ := Graph.found_by_own_name sampleGraph_built
  have hplain : ∀ declaration ∈ sampleGraph.declarations, ¬ Name.IsGlobal declaration.name := by
    decide
  refine ⟨fun declaration hmem ↦ (hdeclarations declaration hmem).1.2 (hplain declaration hmem),
    _, rfl, fun entry hentry ↦ (hentries 64 false _ rfl entry hentry).1.2 ?_⟩
  revert entry
  decide

/-- Two points, the second supplied with two global markers, and an alias that names the second as
it is stored. -/
def Document.twins : Document where
  modules := [⟨"core", []⟩]
  declarations :=
    [⟨"Point", "struct", "core", none, none, [⟨"visible", none⟩]⟩,
     ⟨"::::Point", "struct", "core", none, none, [⟨"visible", none⟩]⟩,
     ⟨"Spot", "alias", "core", none, some "::Point", [⟨"visible", none⟩]⟩]

/-- The graph of the twins. -/
def Document.twinsGraph : Graph where
  modules := [⟨⟨1⟩, "core", []⟩]
  declarations :=
    [⟨⟨1⟩, "Point", .record, ⟨1⟩, none, none, [⟨"visible", none⟩]⟩,
     ⟨⟨2⟩, "::Point", .record, ⟨1⟩, none, none, [⟨"visible", none⟩]⟩,
     ⟨⟨3⟩, "Spot", .typeAlias, ⟨1⟩, none, some "::Point", [⟨"visible", none⟩]⟩]

theorem Document.twinsGraph_built : twinsGraph.Built :=
  built_of_toGraph (show twins.toGraph = .ok twinsGraph from rfl)

/-- **The second twin is not found by its own name**: the name finds the first one, the alias that
names the second points at the first, and so does the query for the entry. -/
theorem Document.twinsGraph_mistaken :
    twinsGraph.Built ∧
    ∃ first ∈ twinsGraph.declarations, ∃ second ∈ twinsGraph.declarations, first ≠ second ∧
      twinsGraph.lookup second.name = some first ∧
      (∃ asking ∈ twinsGraph.declarations, asking.isAlias ∧ asking.target = some second.name ∧
        twinsGraph.directTarget? asking = some first) ∧
      ∃ plan, (Run.ofGraph twinsGraph 64 false).plan = .ok plan ∧
        ∃ entry ∈ plan.entries, entry.qualifiedName = second.name ∧
          ∃ other ∈ plan.entries, other ≠ entry ∧
            plan.entryNamed entry.qualifiedName = some other := by
  refine ⟨twinsGraph_built, twinsGraph.declarations[0], by simp [twinsGraph],
    twinsGraph.declarations[1], by simp [twinsGraph], by decide, by decide, ?_, _, rfl, ?_⟩
  · exact ⟨twinsGraph.declarations[2], by simp [twinsGraph], rfl, rfl, by decide⟩
  · decide

end Exposure
