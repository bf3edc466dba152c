import Exposure.Alias.Chain
import Exposure.Proofs.Graph.Nesting

/-!
# Extending a graph

A graph is extended by a declaration when that is put behind all others (`Graph.Extends`). Look-ups
answer with the first match, so whatever a graph finds, the extended one finds: declarations by name
and by number, the scopes around a place, the end of an alias chain. The traversal comes by the new
declaration somewhere on its way, and the others keep their order (`Extends.filterMap_traversal`).

Every graph can be extended by any declaration that fits it (`Draft.exists_extends`).
-/

namespace Exposure.Graph

/-- **A graph with one declaration more**, behind all others. -/
structure Extends (extended graph : Graph) (added : Declaration) : Prop where
  declarations : extended.declarations = graph.declarations ++ [added]
  modules : extended.modules = graph.modules

namespace Extends

variable {extended graph : Graph} {added : Declaration} (h : extended.Extends graph added)
include h

theorem mem_declarations {declaration : Declaration} :
    declaration ∈ extended.declarations ↔
      declaration ∈ graph.declarations ∨ declaration = added := by
  rw [h.declarations, List.mem_append, List.mem_singleton]

theorem added_mem : added ∈ extended.declarations := h.mem_declarations.2 (.inr rfl)

/-! ### Look-ups -/

theorem module?_eq (id : ModuleId) : extended.module? id = graph.module? id := by
  rw [module?, module?, h.modules]

theorem moduleNamed_eq (name : String) : extended.moduleNamed name = graph.moduleNamed name := by
  rw [moduleNamed, moduleNamed, h.modules]

theorem containsModule_eq (name : String) :
    extended.containsModule name = graph.containsModule name := by
  rw [containsModule, containsModule, h.moduleNamed_eq]

theorem moduleName_eq : extended.moduleName = graph.moduleName := by
  funext id
  rw [moduleName, moduleName, h.module?_eq]

/-- What a name finds, it still finds. -/
theorem lookup_eq_some {name : String} {declaration : Declaration}
    (hfound : graph.lookup name = some declaration) : extended.lookup name = some declaration := by
  rw [lookup] at hfound
  rw [lookup, h.declarations, List.find?_append, hfound, Option.some_or]

/-- What a number finds, it still finds. -/
theorem declaration?_eq_some {id : DeclId} {declaration : Declaration}
    (hfound : graph.declaration? id = some declaration) :
    extended.declaration? id = some declaration := by
  rw [declaration?] at hfound ⊢
  rw [h.declarations]
  generalize id.number = number at hfound ⊢
  rcases number with - | index
  · cases hfound
  · rw [nth?] at hfound ⊢
    rw [List.getElem?_append_left (List.getElem?_eq_some_iff.1 hfound).1, hfound]

/-! ### Scopes -/

/-- The scopes around a place are still around it. -/
theorem nested {next : Option DeclId} {scopes : List Declaration}
    (hnested : graph.Nested next scopes) : extended.Nested next scopes := by
  induction hnested with
  | top => exact .top
  | inside found _ ih => exact .inside (h.declaration?_eq_some found) ih

theorem ends {next : Option DeclId} (hends : graph.Ends next) : extended.Ends next := by
  obtain ⟨scopes, hscopes⟩ := hends
  exact ⟨scopes, h.nested hscopes⟩

/-- **The scopes around a declaration are the same** in both graphs. -/
theorem enclosingScopes_eq (hgraph : graph.Built) (hextended : extended.Built)
    {declaration : Declaration} (hmem : declaration ∈ graph.declarations) :
    extended.enclosingScopes declaration = graph.enclosingScopes declaration :=
  (hextended.nested_enclosingScopes (h.mem_declarations.2 (.inl hmem))).unique
    (h.nested (hgraph.nested_enclosingScopes hmem))

/-- In the extended graph all chains of scopes end if the new declaration is in none or in one of
the old ones. -/
theorem ends_of_mem (hgraph : graph.Built) (hextended : extended.WellFormed)
    (hparent : ∀ id, added.parent = some id → ∃ scope ∈ graph.declarations, scope.id = id) :
    ∀ start ∈ extended.declarations, extended.Ends (some start.id) := by
  have hold {start : Declaration} (hmem : start ∈ graph.declarations) :
      extended.Ends (some start.id) := by
    have hfound := hgraph.wellFormed.declaration?_eq_some.2 ⟨hmem, rfl⟩
    exact h.ends ⟨_, .inside hfound (hgraph.nested_enclosingScopes hmem)⟩
  intro start hstart
  rcases h.mem_declarations.1 hstart with hmem | rfl
  · exact hold hmem
  · have hfound := hextended.declaration?_eq_some.2 ⟨h.added_mem, rfl⟩
    have hnext : extended.Ends start.parent := by
      rcases hid : start.parent with - | id
      · exact ⟨[], .top⟩
      · obtain ⟨scope, hscope, rfl⟩ := hparent id hid
        exact hold hscope
    obtain ⟨scopes, hscopes⟩ := hnext
    exact ⟨_, .inside hfound hscopes⟩

/-! ### Chains -/

/-- A walk that completes a chain takes the same way in the extended graph. -/
theorem walk_eq_ok {start : Declaration} {limit room : Nat} {path : List Declaration}
    {current : Declaration} {chain : Alias.Chain}
    (hchain : Alias.walk graph start limit room path current = .ok chain) :
    Alias.walk extended start limit room path current = .ok chain := by
  fun_induction Alias.walk graph start limit room path current with
  | case1 | case3 | case4 => cases hchain
  | case2 room path current next hnext halias =>
    rw [Alias.walk, h.lookup_eq_some hnext]
    dsimp only
    rw [if_pos halias, hchain]
  | case5 path current next hnext halias hnew room ih =>
    rw [Alias.walk, h.lookup_eq_some hnext]
    dsimp only
    rw [if_neg halias, if_neg hnew]
    exact ih hchain

/-- **A chain that ends, ends at the same declaration** in the extended graph. -/
theorem resolve_eq_ok {depth : Nat} {declaration : Declaration} {chain : Alias.Chain}
    (hchain : Alias.resolve graph depth declaration = .ok chain) :
    Alias.resolve extended depth declaration = .ok chain := by
  rw [Alias.resolve] at hchain ⊢
  split at hchain
  · rename_i halias
    rw [if_pos halias]
    exact h.walk_eq_ok hchain
  · rename_i halias
    rw [if_neg halias, hchain]

/-! ### The traversal -/

theorem members_eq (module : ModuleId) :
    extended.members module =
      graph.members module ++ [added].filter fun declaration ↦ declaration.module = module := by
  rw [members, members, h.declarations, List.filter_append]

/-- The members of a module are the same but for the new declaration. -/
theorem filter_members {p : Declaration → Bool} (hadded : p added = false) (module : ModuleId) :
    (extended.members module).filter p = (graph.members module).filter p := by
  rw [h.members_eq, List.filter_append, List.filter_comm, List.filter_singleton, hadded]
  simp

/-- **The traversal keeps its order**: what is gathered from it is the same if the new declaration
gives nothing. -/
theorem filterMap_traversal {α : Type} {f : Declaration → Option α} (hadded : f added = none) :
    extended.traversal.filterMap f = graph.traversal.filterMap f := by
  rw [traversal, traversal, h.modules, List.filterMap_flatMap, List.filterMap_flatMap]
  refine List.flatMap_congr fun module _ ↦ ?_
  have hnone : ([added].filter fun declaration ↦
      declaration.module = module.id).filterMap f = [] := by
    refine List.filterMap_eq_nil_iff.2 fun declaration hmem ↦ ?_
    rw [List.mem_singleton.1 (List.mem_filter.1 hmem).1, hadded]
  rw [h.members_eq, List.filterMap_append, hnone, List.append_nil]

theorem filter_traversal {p : Declaration → Bool} (hadded : p added = false) :
    extended.traversal.filter p = graph.traversal.filter p := by
  rw [← List.filterMap_eq_filter]
  exact h.filterMap_traversal (by simp [Option.guard, hadded])

end Extends

/-! ### Adding a declaration -/

/-- What is accepted of a declaration under a number, in a module. -/
def Spec.pending (spec : Spec) (module : ModuleId) (index : Nat) : Pending where
  declaration := ⟨.ofIndex index, Name.withoutGlobal spec.name, spec.kind, module, none,
    spec.target, spec.marks⟩
  parentName := spec.parent.map Name.withoutGlobal

/-- **What fits a graph**: a declaration with a new name, a module of the run and a target just if
it is an alias, inside a name scope of the graph or none. -/
structure Spec.Fits (graph : Graph) (spec : Spec) : Prop where
  fresh : ∀ declaration ∈ graph.declarations, declaration.name ≠ Name.withoutGlobal spec.name
  known : graph.containsModule spec.module
  target : spec.target.isSome = decide (spec.kind = .typeAlias)
  inside : ∀ name, spec.parent = some name → ∃ scope ∈ graph.declarations,
    scope.name = Name.withoutGlobal name ∧ scope.kind = .scope

namespace Draft

/-- A parent that is settled stays so when more is accepted. -/
theorem settleParent_append {accepted more : List Declaration} {pending : Pending}
    {declaration : Declaration} (h : settleParent accepted pending = .ok declaration) :
    settleParent (accepted ++ more) pending = .ok declaration := by
  rw [settleParent] at h ⊢
  split at h
  · exact h
  · split at h
    · cases h
    · rename_i parent hfound
      rw [List.find?_append, hfound, Option.some_or]
      exact h

/-- Settling one more settles it behind the others. -/
theorem settleParents_concat {accepted : List Declaration} (more : List Declaration)
    {pending : List Pending} {one : Pending} {declarations : List Declaration} {last : Declaration}
    (hothers : settleParents accepted pending = .ok declarations)
    (hone : settleParent accepted one = .ok last) :
    settleParents (accepted ++ more) (pending ++ [one]) = .ok (declarations ++ [last]) := by
  induction pending generalizing declarations with
  | nil =>
    cases hothers
    rw [List.nil_append, settleParents, settleParent_append hone]
    rfl
  | cons first rest ih =>
    obtain ⟨settled, others, hfirst, hrest, rfl⟩ := settleParents_cons_eq_ok hothers
    rw [List.cons_append, settleParents, settleParent_append hfirst, ih hrest]
    rfl

section Fits

variable {draft : Draft} (hdraft : draft.Sound) {graph : Graph}
  (hmodules : graph.modules = draft.modules)
  (hsettled : settleParents draft.declarations draft.pending = .ok graph.declarations)
  {spec : Spec} (hfits : spec.Fits graph)
include hdraft hsettled hfits

include hmodules in
/-- A declaration that fits a graph is accepted by the draft of the graph. -/
theorem exists_addDeclaration_eq_ok :
    ∃ module, draft.addDeclaration spec =
      .ok (⟨draft.modules, draft.pending ++ [spec.pending module draft.pending.length]⟩,
        .ofIndex draft.pending.length) := by
  obtain ⟨module, hmodule⟩ := Option.isSome_iff_exists.1 hfits.known
  have hfound : draft.moduleNamed spec.module = some module := by
    rw [← hmodule, moduleNamed, Graph.moduleNamed, hmodules]
  refine ⟨module.id, addDeclaration_eq_ok_iff.2 ⟨fun accepted hmem ↦ ?_, hfits.target, module,
    hfound, rfl, rfl⟩⟩
  obtain ⟨declaration, hdeclared, rfl⟩ := hdraft.exists_settled hsettled hmem
  exact hfits.fresh declaration hdeclared

/-- The parent of a declaration that fits a graph settles. -/
theorem exists_settleParent_pending (module : ModuleId) (index : Nat) :
    ∃ added, settleParent draft.declarations (spec.pending module index) = .ok added := by
  refine (exists_settleParent_eq_ok hdraft.declaration_names).2 fun name hname ↦ ?_
  obtain ⟨written, hwritten, rfl⟩ := Option.map_eq_some_iff.1 hname
  obtain ⟨scope, hscope, hscopeName, hkind⟩ := hfits.inside written hwritten
  exact ⟨_, hdraft.accepted_of_settled hsettled hscope, hscopeName, hkind⟩

end Fits

/-- **A graph can be extended by whatever fits it**: the addition is accepted, and the draft still
settles. -/
theorem exists_extends {draft : Draft} {graph : Graph} (hdraft : draft.Reached)
    (hbuild : draft.build = .ok graph) {spec : Spec} (hfits : spec.Fits graph) :
    ∃ next id extended added, draft.addDeclaration spec = .ok (next, id) ∧
      next.build = .ok extended ∧ extended.Extends graph added ∧ added.id = id ∧
        added.kind = spec.kind ∧ added.marks = spec.marks := by
  have hgraph : graph.Built := ⟨draft, hdraft, hbuild⟩
  obtain ⟨hmodules, hsettled, -⟩ := build_eq_ok hbuild
  obtain ⟨module, hadd⟩ := exists_addDeclaration_eq_ok hdraft.sound hmodules hsettled hfits
  obtain ⟨added, hadded⟩ :=
    exists_settleParent_pending hdraft.sound hsettled hfits module draft.pending.length
  obtain ⟨hkept, hscope⟩ := settleParent_eq_ok hadded rfl
  obtain ⟨extended, hdeclarations, hextended⟩ : ∃ extended : Graph,
      extended.declarations = graph.declarations ++ [added] ∧ extended.modules = draft.modules :=
    ⟨⟨_, _⟩, rfl, rfl⟩
  have hextends : extended.Extends graph added := ⟨hdeclarations, hextended.trans hmodules.symm⟩
  have hall : declarations ⟨draft.modules,
      draft.pending ++ [spec.pending module draft.pending.length]⟩ =
        draft.declarations ++ [(spec.pending module draft.pending.length).declaration] :=
    List.map_append
  have hsettles := settleParents_concat
    [(spec.pending module draft.pending.length).declaration] hsettled hadded
  rw [← hall, ← hdeclarations] at hsettles
  have hnext := (hdraft.addDeclaration hadd).sound
  -- The added declaration is inside what was there, whose chains end, so all chains end.
  have hends := hextends.ends_of_mem hgraph (hnext.wellFormed hextended hsettles) fun id hid ↦ by
    obtain ⟨scope, hscope, rfl, -⟩ := hscope id hid
    obtain ⟨settled, hmem, rfl⟩ := hdraft.sound.exists_settled hsettled hscope
    exact ⟨settled, hmem, rfl⟩
  refine ⟨_, _, extended, added, hadd, build_eq_ok_of_ends hnext hextended hsettles hends, hextends,
    ?_, ?_, ?_⟩
  all_goals
    rw [hkept]
    rfl

end Draft
end Exposure.Graph
