import Exposure.Proofs.Graph.Nesting

/-!
# Renumbering

Identities of declarations are numbers in order of acceptance. A graph is another one
**renumbered** if the two differ in these numbers only (`Graph.Renumbered`): they have the same
modules, and every module has the same members in the same order.

Nothing that is found by name or by nesting depends on the numbers. Whatever a graph finds, the
renumbered graph finds renumbered: a declaration under a name (`Renumbered.lookup_eq`) and the
scopes around a declaration (`Renumbered.enclosingScopes_eq`). Parent chains that end go on ending
(`Renumbered.ends`).
-/

namespace Exposure

/-- A declaration with its identity and that of its parent renumbered. -/
def Declaration.renumber (ρ : DeclId → DeclId) (declaration : Declaration) : Declaration :=
  { declaration with id := ρ declaration.id, parent := declaration.parent.map ρ }

namespace Declaration

variable (ρ : DeclId → DeclId) (declaration : Declaration)

@[simp] theorem id_renumber : (declaration.renumber ρ).id = ρ declaration.id := rfl
@[simp] theorem name_renumber : (declaration.renumber ρ).name = declaration.name := rfl
@[simp] theorem kind_renumber : (declaration.renumber ρ).kind = declaration.kind := rfl
@[simp] theorem module_renumber : (declaration.renumber ρ).module = declaration.module := rfl
@[simp] theorem parent_renumber : (declaration.renumber ρ).parent = declaration.parent.map ρ := rfl
@[simp] theorem target_renumber : (declaration.renumber ρ).target = declaration.target := rfl
@[simp] theorem isAlias_renumber : (declaration.renumber ρ).isAlias = declaration.isAlias := rfl

variable {ρ}

theorem renumber_injective (h : Function.Injective ρ) :
    Function.Injective (Declaration.renumber ρ) := by
  intro a b hab
  have hid : a.id = b.id := h (congrArg Declaration.id hab)
  have hparent : a.parent = b.parent :=
    Option.map_injective h (congrArg Declaration.parent hab)
  cases a
  cases b
  simp_all [renumber]

end Declaration

namespace Graph

/-- **A graph renumbered**: the same but for the identities of declarations. -/
structure Renumbered (ρ : DeclId → DeclId) (graph graph' : Graph) : Prop where
  injective : Function.Injective ρ
  modules : graph'.modules = graph.modules
  length : graph'.declarations.length = graph.declarations.length
  declaration? : ∀ id, graph'.declaration? (ρ id) = (graph.declaration? id).map (·.renumber ρ)
  members : ∀ module, graph'.members module = (graph.members module).map (·.renumber ρ)

namespace Renumbered

variable {ρ : DeclId → DeclId} {graph graph' : Graph} (h : Renumbered ρ graph graph')
include h

/-! ### Modules -/

theorem moduleNamed_eq (name : String) : graph'.moduleNamed name = graph.moduleNamed name := by
  rw [moduleNamed, moduleNamed, h.modules]

theorem containsModule_eq (name : String) :
    graph'.containsModule name = graph.containsModule name := by
  rw [containsModule, containsModule, h.moduleNamed_eq]

theorem moduleName_eq (id : ModuleId) : graph'.moduleName id = graph.moduleName id := by
  rw [moduleName, moduleName, module?, module?, h.modules]

/-! ### Declarations -/

/-- **What is declared is renumbered.** -/
theorem mem_declarations (hgraph : graph.WellFormed) {declaration : Declaration}
    (hmem : declaration ∈ graph.declarations) :
    declaration.renumber ρ ∈ graph'.declarations := by
  obtain ⟨module, -, hid⟩ := hgraph.owned declaration hmem
  have hmember : declaration ∈ graph.members module.id :=
    List.mem_filter.2 ⟨hmem, by simp [hid]⟩
  have hmember' := List.mem_map_of_mem (f := (·.renumber ρ)) hmember
  rw [← h.members] at hmember'
  exact (List.mem_filter.1 hmember').1

/-- Nothing else is declared. -/
theorem exists_of_mem_declarations (hgraph' : graph'.WellFormed) {declaration : Declaration}
    (hmem : declaration ∈ graph'.declarations) :
    ∃ original ∈ graph.declarations, original.renumber ρ = declaration := by
  obtain ⟨module, -, hid⟩ := hgraph'.owned declaration hmem
  have hmember : declaration ∈ graph'.members module.id :=
    List.mem_filter.2 ⟨hmem, by simp [hid]⟩
  rw [h.members] at hmember
  obtain ⟨original, horiginal, heq⟩ := List.mem_map.1 hmember
  exact ⟨original, (List.mem_filter.1 horiginal).1, heq⟩

/-- **A name finds the same declaration**, renumbered. -/
theorem lookup_eq (hgraph : graph.WellFormed) (hgraph' : graph'.WellFormed) (name : String) :
    graph'.lookup name = (graph.lookup name).map (·.renumber ρ) := by
  rcases hfound : graph.lookup name with - | declaration
  · rcases hfound' : graph'.lookup name with - | found
    · rfl
    · obtain ⟨hmem, hname⟩ := hgraph'.lookup_eq_some.1 hfound'
      obtain ⟨original, horiginal, rfl⟩ := h.exists_of_mem_declarations hgraph' hmem
      rw [hgraph.lookup_eq_some.2 ⟨horiginal, hname⟩] at hfound
      cases hfound
  · obtain ⟨hmem, hname⟩ := hgraph.lookup_eq_some.1 hfound
    exact hgraph'.lookup_eq_some.2 ⟨h.mem_declarations hgraph hmem, hname⟩

/-- The name under an identity stays the same. -/
theorem declarationName_eq (id : DeclId) :
    graph'.declarationName (ρ id) = graph.declarationName id := by
  rw [declarationName, declarationName, h.declaration?]
  cases graph.declaration? id <;> rfl

/-- A climb meets the same scopes. -/
theorem climb_eq (steps : Nat) (next : Option DeclId) :
    graph'.climb steps (next.map ρ) = (graph.climb steps next).map (·.renumber ρ) := by
  induction steps generalizing next with
  | zero => cases next <;> rfl
  | succ steps ih =>
    rcases next with - | id
    · rfl
    · rw [Option.map_some, climb, climb, h.declaration?]
      rcases graph.declaration? id with - | declaration
      · rfl
      · exact congrArg _ (ih declaration.parent)

/-- **The scopes around a declaration are the same.** -/
theorem enclosingScopes_eq (declaration : Declaration) :
    graph'.enclosingScopes (declaration.renumber ρ) =
      (graph.enclosingScopes declaration).map (·.renumber ρ) := by
  rw [enclosingScopes, enclosingScopes, h.length]
  exact h.climb_eq _ _

/-! ### Parent chains -/

/-- The scopes around a place are the same. -/
theorem nested {next : Option DeclId} {scopes : List Declaration}
    (hnested : graph.Nested next scopes) :
    graph'.Nested (next.map ρ) (scopes.map (·.renumber ρ)) := by
  induction hnested with
  | top => exact .top
  | inside found _ ih =>
    refine .inside ?_ ih
    rw [h.declaration?, found]
    rfl

/-- **A parent chain that ends goes on ending.** -/
theorem ends {next : Option DeclId} (hends : graph.Ends next) : graph'.Ends (next.map ρ) := by
  obtain ⟨scopes, hscopes⟩ := hends
  exact ⟨_, h.nested hscopes⟩

end Renumbered
end Graph
end Exposure
