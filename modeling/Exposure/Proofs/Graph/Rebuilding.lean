import Exposure.Proofs.Graph.Nesting

/-!
# Rebuilding a graph

What a history guarantees of a graph is all that it takes: a well-formed graph whose parent chains
end is built (`built_iff`). Its own modules and declarations, added in order, are a history of it
(`Draft.ofGraph`). Every name is written with a global marker in front, which is what goes when a
name is accepted, so that it does not matter how the names of the graph begin.

Hence a change that keeps a graph well formed and lets its parent chains end leads to a built graph,
as another list of marks on one declaration does (`Built.remark`).
-/

namespace Exposure

namespace Graph

/-- A declaration as it is accepted, with its parent known by name. -/
def pendingOf (graph : Graph) (declaration : Declaration) : Pending where
  declaration := { declaration with parent := none }
  parentName := declaration.parent.map graph.declarationName

/-- The draft that has accepted the modules and declarations of a graph, in order. -/
def Draft.ofGraph (graph : Graph) : Draft where
  modules := graph.modules
  pending := graph.declarations.map graph.pendingOf

/-- What the front end can say to have a declaration accepted. -/
def specOf (graph : Graph) (declaration : Declaration) : Spec where
  name := "::" ++ declaration.name
  kind := declaration.kind
  module := graph.moduleName declaration.module
  parent := declaration.parent.map fun id ↦ "::" ++ graph.declarationName id
  target := declaration.target
  marks := declaration.marks

/-- The last number of a list numbered in order, and those in front of it. -/
theorem of_map_concat_eq_range {α β : Type} {id : α → β} {ofIndex : Nat → β} {xs : List α} {x : α}
    (h : (xs ++ [x]).map id = (List.range (xs ++ [x]).length).map ofIndex) :
    xs.map id = (List.range xs.length).map ofIndex ∧ id x = ofIndex xs.length := by
  rw [List.length_append, List.length_singleton, List.range_succ, List.map_append, List.map_append]
    at h
  obtain ⟨hfront, hlast⟩ := List.append_inj h (by simp)
  exact ⟨hfront, by simpa using hlast⟩

/-- In a list with all names different the last name is new. -/
theorem of_nodup_map_concat {α : Type} {name : α → String} {xs : List α} {x : α}
    (h : ((xs ++ [x]).map name).Nodup) :
    (xs.map name).Nodup ∧ ∀ y ∈ xs, name y ≠ name x := by
  rw [List.map_append, List.nodup_append] at h
  exact ⟨h.1, fun y hy ↦ h.2.2 (name y) (List.mem_map_of_mem hy) (name x) (by simp)⟩

namespace Draft

/-- Modules with numbers in order and names all different can be added one by one. -/
theorem reached_modules {modules : List Module}
    (hids : modules.map (·.id) = (List.range modules.length).map ModuleId.ofIndex)
    (hnames : (modules.map (·.name)).Nodup) : Reached ⟨modules, []⟩ := by
  induction modules using List.reverseRecOn with
  | nil => exact .empty
  | append_singleton modules module ih =>
    obtain ⟨hids, hid⟩ := of_map_concat_eq_range hids
    obtain ⟨hnames, hnew⟩ := of_nodup_map_concat hnames
    have haccepted : addModule ⟨modules, []⟩ module.name module.marks =
        .ok (⟨modules ++ [module], []⟩, module.id) :=
      addModule_eq_ok_iff.2 ⟨hnew, hid, by rw [← hid]⟩
    exact (ih hids hnames).addModule haccepted

/-- The declarations of a well-formed graph can be added one by one. -/
theorem reached_pending {graph : Graph} (hgraph : graph.WellFormed)
    {declarations : List Declaration} (hsubset : declarations ⊆ graph.declarations)
    (hids : declarations.map (·.id) = (List.range declarations.length).map DeclId.ofIndex)
    (hnames : (declarations.map (·.name)).Nodup) :
    Reached ⟨graph.modules, declarations.map graph.pendingOf⟩ := by
  induction declarations using List.reverseRecOn with
  | nil => exact reached_modules hgraph.module_ids hgraph.module_names
  -- The last declaration has the next number, a new name and a module that is there.
  | append_singleton declarations declaration ih =>
    obtain ⟨hids, hid⟩ := of_map_concat_eq_range hids
    obtain ⟨hnames, hnew⟩ := of_nodup_map_concat hnames
    have hmem : declaration ∈ graph.declarations := hsubset (by simp)
    obtain ⟨module, hmodule, howner⟩ := hgraph.owned declaration hmem
    have hfound : (⟨graph.modules, declarations.map graph.pendingOf⟩ : Draft).moduleNamed
        (graph.specOf declaration).module = some module := by
      rw [specOf, ← howner, hgraph.moduleName_eq hmodule]
      exact hgraph.moduleNamed_eq_some.2 ⟨hmodule, rfl⟩
    have haccepted : addDeclaration ⟨graph.modules, declarations.map graph.pendingOf⟩
        (graph.specOf declaration) = .ok (⟨graph.modules,
          (declarations ++ [declaration]).map graph.pendingOf⟩, declaration.id) := by
      refine addDeclaration_eq_ok_iff.2
        ⟨?_, hgraph.targets declaration hmem, module, hfound, ?_, ?_⟩
      · intro accepted haccepted
        obtain ⟨pending, hpending, rfl⟩ := List.mem_map.1 haccepted
        obtain ⟨one, hone, rfl⟩ := List.mem_map.1 hpending
        rw [specOf, Name.withoutGlobal_append]
        exact hnew one hone
      · rw [hid, List.length_map]
      · rw [List.map_append, List.map_singleton, List.length_map, ← hid, howner]
        simp only [specOf, pendingOf, Name.withoutGlobal_append, Option.map_map, Function.comp_def]
    exact (ih (fun one hone ↦ hsubset (List.mem_append_left _ hone)) hids hnames).addDeclaration
      haccepted

theorem reached_ofGraph {graph : Graph} (hgraph : graph.WellFormed) : (ofGraph graph).Reached :=
  reached_pending hgraph (List.Subset.refl _) hgraph.declaration_ids hgraph.declaration_names

/-- The parent of a declaration of a well-formed graph settles again. -/
theorem settleParent_pendingOf {graph : Graph} (hgraph : graph.WellFormed)
    {declaration : Declaration} (hmem : declaration ∈ graph.declarations) :
    settleParent (ofGraph graph).declarations (graph.pendingOf declaration) = .ok declaration := by
  rcases hparent : declaration.parent with - | id
  · have hpending : graph.pendingOf declaration = ⟨declaration, none⟩ := by
      obtain ⟨_, _, _, _, parent, _, _⟩ := declaration
      obtain rfl : parent = none := hparent
      rfl
    rw [hpending]
    rfl
  · obtain ⟨scope, hscope, rfl, hkind⟩ := hgraph.parents declaration hmem id hparent
    have hnames : ((ofGraph graph).declarations.map (·.name)).Nodup := by
      simpa [declarations, ofGraph, pendingOf, Function.comp_def] using hgraph.declaration_names
    have hfound : (ofGraph graph).declarations.find?
        (fun other ↦ other.name = scope.name) = some { scope with parent := none } := by
      refine (find?_eq_some_of_nodup hnames).2 ⟨?_, rfl⟩
      exact List.mem_map.2 ⟨graph.pendingOf scope, List.mem_map_of_mem hscope, rfl⟩
    rw [settleParent, pendingOf, hparent, Option.map_some, hgraph.declarationName_eq hscope]
    dsimp only
    rw [hfound]
    dsimp only
    rw [if_pos hkind, ← hparent]

/-- All parents of a well-formed graph settle again. -/
theorem settleParents_ofGraph {graph : Graph} (hgraph : graph.WellFormed) :
    settleParents (ofGraph graph).declarations (ofGraph graph).pending =
      .ok graph.declarations := by
  suffices h : ∀ declarations ⊆ graph.declarations,
      settleParents (ofGraph graph).declarations (declarations.map graph.pendingOf) =
        .ok declarations from h _ (List.Subset.refl _)
  intro declarations hsubset
  induction declarations with
  | nil => rfl
  | cons first rest ih =>
    obtain ⟨hfirst, hrest⟩ := List.cons_subset.1 hsubset
    rw [List.map_cons, settleParents, settleParent_pendingOf hgraph hfirst]
    dsimp only
    rw [ih hrest]
    rfl

end Draft

/-- **Which graphs are built**: those that are well formed and whose parent chains end. -/
theorem built_iff {graph : Graph} :
    graph.Built ↔ graph.WellFormed ∧ ∀ start ∈ graph.declarations, graph.Ends start.parent := by
  constructor
  · exact fun h ↦ ⟨h.wellFormed, fun start hstart ↦ ⟨_, h.nested_enclosingScopes hstart⟩⟩
  · rintro ⟨hgraph, hends⟩
    have hreached := Draft.reached_ofGraph hgraph
    refine ⟨_, hreached, Draft.build_eq_ok_of_ends hreached.sound rfl
      (Draft.settleParents_ofGraph hgraph) fun start hstart ↦ ?_⟩
    obtain ⟨scopes, hscopes⟩ := hends start hstart
    exact ⟨_, .inside (hgraph.declaration?_eq_some.2 ⟨hstart, rfl⟩) hscopes⟩

end Graph

/-! ### Other marks -/

/-- The declaration itself, with other marks if it is the one with an identity. -/
def Declaration.remark (id : DeclId) (marks : List Mark) (declaration : Declaration) :
    Declaration :=
  { declaration with marks := if declaration.id = id then marks else declaration.marks }

/-- **A graph with other marks on one declaration.** -/
def Graph.remark (graph : Graph) (id : DeclId) (marks : List Mark) : Graph :=
  { graph with declarations := graph.declarations.map (·.remark id marks) }

namespace Declaration

variable (id : DeclId) (marks : List Mark) (declaration : Declaration)

@[simp] theorem id_remark : (declaration.remark id marks).id = declaration.id := rfl
@[simp] theorem name_remark : (declaration.remark id marks).name = declaration.name := rfl
@[simp] theorem kind_remark : (declaration.remark id marks).kind = declaration.kind := rfl
@[simp] theorem module_remark : (declaration.remark id marks).module = declaration.module := rfl
@[simp] theorem parent_remark : (declaration.remark id marks).parent = declaration.parent := rfl

/-- The one with the identity has the other marks. -/
theorem remark_self : declaration.remark declaration.id marks = { declaration with marks } := by
  rw [remark, if_pos rfl]

/-- All others are as they were. -/
theorem remark_of_ne (h : declaration.id ≠ id) : declaration.remark id marks = declaration := by
  rw [remark, if_neg h]

end Declaration

namespace Graph

variable {graph : Graph} (id : DeclId) (marks : List Mark)

theorem mem_remark {declaration : Declaration} (hmem : declaration ∈ graph.declarations) :
    declaration.remark id marks ∈ (graph.remark id marks).declarations :=
  List.mem_map_of_mem hmem

theorem WellFormed.remark (h : graph.WellFormed) : (graph.remark id marks).WellFormed where
  declaration_ids := by simpa [Graph.remark, Function.comp_def] using h.declaration_ids
  module_ids := h.module_ids
  declaration_names := by simpa [Graph.remark, Function.comp_def] using h.declaration_names
  module_names := h.module_names
  owned := List.forall_mem_map.2 h.owned
  targets := List.forall_mem_map.2 h.targets
  parents := List.forall_mem_map.2 fun declaration hmem parent hparent ↦ by
    obtain ⟨scope, hscope, hid, hkind⟩ := h.parents declaration hmem parent hparent
    exact ⟨_, mem_remark id marks hscope, hid, hkind⟩

/-- An identity finds the same declaration, perhaps with other marks. -/
theorem declaration?_remark (other : DeclId) :
    (graph.remark id marks).declaration? other =
      (graph.declaration? other).map (·.remark id marks) := by
  rw [declaration?, declaration?, Graph.remark]
  rcases other.number with - | index
  · rfl
  · exact List.getElem?_map

/-- The scopes around a place are the same, one of them perhaps with other marks. -/
theorem Nested.remark {next : Option DeclId} {scopes : List Declaration}
    (h : graph.Nested next scopes) :
    (graph.remark id marks).Nested next (scopes.map (·.remark id marks)) := by
  induction h with
  | top => exact .top
  | inside found _ ih =>
    refine .inside ?_ ih
    rw [declaration?_remark, found]
    rfl

/-- **Other marks leave a built graph built.** -/
theorem Built.remark (h : graph.Built) : (graph.remark id marks).Built := by
  refine built_iff.2 ⟨h.wellFormed.remark id marks, fun start hstart ↦ ?_⟩
  obtain ⟨declaration, hmem, rfl⟩ := List.mem_map.1 hstart
  exact ⟨_, (h.nested_enclosingScopes hmem).remark id marks⟩

end Graph
end Exposure
