import Exposure.Proofs.Graph.Built
import Mathlib.Data.List.Perm.Subperm

/-!
# Nesting

`Graph.Nested` reads the nesting of name scopes off the parents alone, without a bound: the
scopes around a declaration form a chain that leads from parent to parent and ends at the top
level. A chain that ends repeats nothing, so it has no more members than the graph has
declarations, and the bounded climb of `Graph.enclosingScopes` follows it to its end.

That every chain of a built graph ends is what the last check of a draft establishes. The check
walks from declaration to declaration and stops at what an earlier walk has settled
(`Draft.ascend`); it has one step more than there are declarations, so a walk without repetition
never runs out of steps before it is decided.
-/

namespace Exposure.Graph

/-- **The scopes around a place**, innermost first: each is the parent of the one before, and
the last has none. -/
inductive Nested (graph : Graph) : Option DeclId → List Declaration → Prop
  | top : Nested graph none []
  | inside {id : DeclId} {scope : Declaration} {scopes : List Declaration}
      (found : graph.declaration? id = some scope)
      (outer : Nested graph scope.parent scopes) : Nested graph (some id) (scope :: scopes)

/-- A parent chain that comes to an end. -/
def Ends (graph : Graph) (next : Option DeclId) : Prop :=
  ∃ scopes, graph.Nested next scopes

variable {graph : Graph}

namespace Nested

/-- The scopes around a place are determined by it. -/
theorem unique {next : Option DeclId} {scopes others : List Declaration}
    (hscopes : graph.Nested next scopes) (hothers : graph.Nested next others) :
    scopes = others := by
  induction hscopes generalizing others with
  | top =>
    cases hothers
    rfl
  | inside found _ ih =>
    rcases hothers with - | ⟨found', outer'⟩
    obtain rfl := Option.some.inj (found.symm.trans found')
    rw [ih outer']

/-- The scopes behind a member of the chain are those around it. -/
theorem outer_of_append {next : Option DeclId} {inner outer : List Declaration}
    {scope : Declaration} (h : graph.Nested next (inner ++ scope :: outer)) :
    graph.Nested scope.parent outer := by
  induction inner generalizing next with
  | nil =>
    rcases h with - | ⟨-, houter⟩
    exact houter
  | cons first inner ih =>
    rcases h with - | ⟨-, houter⟩
    exact ih houter

/-- A chain that ends repeats nothing: behind a repetition it would go on as it did before. -/
theorem nodup {next : Option DeclId} {scopes : List Declaration}
    (h : graph.Nested next scopes) : scopes.Nodup := by
  induction h with
  | top => exact List.nodup_nil
  | @inside id scope scopes found outer ih =>
    refine List.nodup_cons.2 ⟨fun hmem ↦ ?_, ih⟩
    obtain ⟨inner, rest, rfl⟩ := List.append_of_mem hmem
    -- The chain from the parent of the repeated scope would be its own proper end.
    have hlength := congrArg List.length (outer.unique outer.outer_of_append)
    simp only [List.length_append, List.length_cons] at hlength
    omega

/-- The scopes of a chain are declarations of the graph. -/
theorem subset (hgraph : graph.WellFormed) {next : Option DeclId} {scopes : List Declaration}
    (h : graph.Nested next scopes) : scopes ⊆ graph.declarations := by
  induction h with
  | top => exact List.nil_subset _
  | inside found _ ih =>
    exact List.cons_subset.2 ⟨(hgraph.declaration?_eq_some.1 found).1, ih⟩

/-- A chain has no more members than the graph has declarations. -/
theorem length_le (hgraph : graph.WellFormed) {next : Option DeclId}
    {scopes : List Declaration} (h : graph.Nested next scopes) :
    scopes.length ≤ graph.declarations.length :=
  (List.subperm_of_subset h.nodup (h.subset hgraph)).length_le

/-- A climb with enough steps meets the whole chain. -/
theorem climb_eq {next : Option DeclId} {scopes : List Declaration}
    (h : graph.Nested next scopes) {steps : Nat} (hsteps : scopes.length ≤ steps) :
    graph.climb steps next = scopes := by
  induction h generalizing steps with
  | top => cases steps <;> rfl
  | inside found _ ih =>
    rcases steps with - | steps
    · simp at hsteps
    · rw [climb, found]
      exact congrArg _ (ih (by simpa using hsteps))

end Nested

/-! ### What the last check of a draft establishes -/

namespace Draft

/-- **A walk that is not refused ends.** What it has collected ends with it, given that what was
settled before ends. The invariant of a walk is that it has collected distinct identities of the
graph and has as many steps left as could still be collected, and one more. -/
theorem ends_of_ascend (hgraph : graph.WellFormed) {settled : List DeclId}
    (hsettled : ∀ id ∈ settled, graph.Ends (some id)) {steps : Nat} {seen result : List DeclId}
    {next : Option DeclId} (hnodup : seen.Nodup)
    (hseen : seen ⊆ graph.declarations.map (·.id))
    (hsteps : seen.length + steps = graph.declarations.length + 1)
    (hnext : ∀ id, next = some id → ∃ declaration, graph.declaration? id = some declaration)
    (h : ascend graph settled steps seen next = .ok result) :
    graph.Ends next ∧ ∀ id ∈ result, id ∈ seen ∨ graph.Ends (some id) := by
  induction steps generalizing seen next with
  | zero =>
    -- No steps are left, so more has been collected than there is.
    have hle := (List.subperm_of_subset hnodup hseen).length_le
    rw [List.length_map] at hle
    omega
  | succ steps ih =>
    rcases next with - | id
    · cases h
      exact ⟨⟨[], .top⟩, fun id hid ↦ .inl hid⟩
    · unfold ascend at h
      split at h
      · rename_i hmem
        cases h
        exact ⟨hsettled id hmem, fun other hother ↦ .inl hother⟩
      · split at h
        · cases h
        · rename_i hnew
          obtain ⟨declaration, hfound⟩ := hnext id rfl
          obtain ⟨hdeclared, hid⟩ := hgraph.declaration?_eq_some.1 hfound
          rw [hfound] at h
          -- The walk goes on at the parent, which is a declaration of the graph.
          have hparent : ∀ parent, declaration.parent = some parent →
              ∃ scope, graph.declaration? parent = some scope := by
            intro parent hparent
            obtain ⟨scope, hscope, hscopeId, -⟩ :=
              hgraph.parents declaration hdeclared parent hparent
            exact ⟨scope, hgraph.declaration?_eq_some.2 ⟨hscope, hscopeId⟩⟩
          obtain ⟨⟨scopes, hscopes⟩, hresult⟩ := ih (List.nodup_cons.2 ⟨hnew, hnodup⟩)
            (List.cons_subset.2 ⟨hid ▸ List.mem_map_of_mem hdeclared, hseen⟩)
            (by rw [List.length_cons]; omega) hparent h
          have hends : graph.Ends (some id) := ⟨_, .inside hfound hscopes⟩
          refine ⟨hends, fun other hother ↦ ?_⟩
          rcases hresult other hother with hmem | hother
          · rcases List.mem_cons.1 hmem with rfl | hmem
            · exact .inr hends
            · exact .inl hmem
          · exact .inr hother

/-- A walk from a declaration settles the chain of the declaration and what it has met. -/
theorem ends_of_ascend_start (hgraph : graph.WellFormed) {settled : List DeclId}
    (hsettled : ∀ id ∈ settled, graph.Ends (some id)) {start : Declaration}
    (hstart : start ∈ graph.declarations) {steps : Nat} {seen : List DeclId}
    (hsteps : steps = graph.declarations.length + 1)
    (h : ascend graph settled steps [] (some start.id) = .ok seen) :
    graph.Ends (some start.id) ∧ ∀ id ∈ seen ++ settled, graph.Ends (some id) := by
  obtain ⟨hends, hresult⟩ := ends_of_ascend hgraph hsettled List.nodup_nil
    (List.nil_subset _) (by simp [hsteps])
    (by
      rintro id ⟨⟩
      exact ⟨start, hgraph.declaration?_eq_some.2 ⟨hstart, rfl⟩⟩) h
  refine ⟨hends, fun id hid ↦ ?_⟩
  rcases List.mem_append.1 hid with hid | hid
  · exact (hresult id hid).resolve_left List.not_mem_nil
  · exact hsettled id hid

/-- If the check passes, the chain of every declaration it starts from ends. -/
theorem ends_of_checkChains (hgraph : graph.WellFormed) {settled : List DeclId}
    (hsettled : ∀ id ∈ settled, graph.Ends (some id)) {starts : List Declaration}
    (hstarts : starts ⊆ graph.declarations) (h : checkChains graph settled starts = .ok ()) :
    ∀ start ∈ starts, graph.Ends (some start.id) := by
  induction starts generalizing settled with
  | nil => simp
  | cons first rest ih =>
    obtain ⟨hfirst, hrest⟩ := List.cons_subset.1 hstarts
    unfold checkChains at h
    split at h
    · cases h
    · rename_i seen hseen
      obtain ⟨hends, hnow⟩ := ends_of_ascend_start hgraph hsettled hfirst rfl hseen
      exact List.forall_mem_cons.2 ⟨hends, ih hnow hrest h⟩

/-- **A walk along a chain that ends is not refused**, if it has not met any of the chain before. -/
theorem exists_ascend_eq_ok (hgraph : graph.WellFormed) {settled : List DeclId}
    {next : Option DeclId} {scopes : List Declaration} (hnested : graph.Nested next scopes)
    {seen : List DeclId} (hnew : ∀ scope ∈ scopes, scope.id ∉ seen) (steps : Nat) :
    ∃ result, ascend graph settled steps seen next = .ok result := by
  induction hnested generalizing seen steps with
  | top => cases steps <;> exact ⟨seen, rfl⟩
  | @inside id scope scopes found outer ih =>
    obtain ⟨hmem, hid⟩ := hgraph.declaration?_eq_some.1 found
    obtain ⟨hscope, hscopes⟩ := List.forall_mem_cons.1 hnew
    rcases steps with - | steps
    · exact ⟨seen, rfl⟩
    · rw [ascend]
      split
      · exact ⟨seen, rfl⟩
      · rw [if_neg (hid ▸ hscope), found]
        -- The chain repeats nothing, so what is now met is not met again.
        refine ih (fun other hother hother' ↦ ?_) steps
        rcases List.mem_cons.1 hother' with heq | hmem'
        · have hsame := hgraph.declaration_unique (outer.subset hgraph hother) hmem
            (heq.trans hid.symm)
          exact (List.nodup_cons.1 (Nested.inside found outer).nodup).1 (hsame ▸ hother)
        · exact hscopes other hother hmem'

/-- If the chain of every declaration it starts from ends, the check passes. -/
theorem checkChains_eq_ok_of_ends (hgraph : graph.WellFormed) {settled : List DeclId}
    {starts : List Declaration} (hends : ∀ start ∈ starts, graph.Ends (some start.id)) :
    checkChains graph settled starts = .ok () := by
  induction starts generalizing settled with
  | nil => rfl
  | cons first rest ih =>
    obtain ⟨⟨scopes, hscopes⟩, hrest⟩ := List.forall_mem_cons.1 hends
    obtain ⟨seen, hseen⟩ : ∃ seen, ascend graph settled (graph.declarations.length + 1) []
        (some first.id) = .ok seen := exists_ascend_eq_ok hgraph hscopes (by simp) _
    rw [checkChains, hseen]
    exact ih hrest

/-- A draft that settles into a graph in which all chains end has this graph. -/
theorem build_eq_ok_of_ends {draft : Draft} (hdraft : draft.Sound)
    (hmodules : graph.modules = draft.modules)
    (hsettled : settleParents draft.declarations draft.pending = .ok graph.declarations)
    (hends : ∀ start ∈ graph.declarations, graph.Ends (some start.id)) :
    draft.build = .ok graph := by
  have hgraph := hdraft.wellFormed hmodules hsettled
  rw [build, hsettled]
  dsimp only
  rw [← hmodules, checkChains_eq_ok_of_ends hgraph hends]
  rfl

end Draft

/-- **The scopes around a declaration of a built graph are all there.** -/
theorem Built.nested_enclosingScopes (h : graph.Built) {declaration : Declaration}
    (hmem : declaration ∈ graph.declarations) :
    graph.Nested declaration.parent (graph.enclosingScopes declaration) := by
  have hgraph := h.wellFormed
  obtain ⟨draft, -, hbuild⟩ := h
  obtain ⟨-, -, hcheck⟩ := Draft.build_eq_ok hbuild
  obtain ⟨scopes, hscopes⟩ := Draft.ends_of_checkChains hgraph (by simp)
    (List.Subset.refl _) hcheck declaration hmem
  -- The chain from the declaration itself starts with it and goes on with the scopes around it.
  rcases hscopes with - | ⟨found, outer⟩
  obtain rfl := (hgraph.declaration_unique hmem (hgraph.declaration?_eq_some.1 found).1
    (hgraph.declaration?_eq_some.1 found).2.symm)
  rw [enclosingScopes, outer.climb_eq (outer.length_le hgraph)]
  exact outer

end Exposure.Graph
