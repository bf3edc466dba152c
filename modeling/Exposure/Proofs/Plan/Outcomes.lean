import Exposure.Alias.Chain
import Exposure.Annotation.Extraction
import Exposure.Proofs.Graph.Built
import Exposure.Proofs.Keyed

/-!
# What a run looks up

A run reads its marks and walks its alias chains once and from then on looks the outcomes up by
identity. As identities tell declarations and modules apart, what is found is the outcome of
exactly the one asked for, whatever the order of the work was: each step writes under its own
identity and leaves all others alone.
-/

namespace Exposure

/-! ### Passes over a list

`step` takes up one member; `held state k` is what a state holds under the key `k`. -/

section Pass

variable {σ β κ γ : Type} {step : σ → β → σ} (key : β → κ) (held : σ → κ → γ)

/-- Under a key that no member has, a pass changes nothing. -/
theorem held_foldl_of_forall_ne
    (hother : ∀ state x k, key x ≠ k → held (step state x) k = held state k)
    {xs : List β} {state : σ} {k : κ} (hne : ∀ x ∈ xs, key x ≠ k) :
    held (xs.foldl step state) k = held state k := by
  induction xs generalizing state with
  | nil => rfl
  | cons x xs ih =>
    obtain ⟨hx, hxs⟩ := List.forall_mem_cons.1 hne
    rw [List.foldl_cons, ih hxs, hother state x k hx]

/-- Under the key of a member, a pass over members with distinct keys holds the outcome of that
member, if nothing was held there before. -/
theorem held_foldl_of_mem (outcome : β → γ) (blank : γ)
    (hother : ∀ state x k, key x ≠ k → held (step state x) k = held state k)
    (hself : ∀ state x, held state (key x) = blank → held (step state x) (key x) = outcome x)
    {xs : List β} (hnodup : (xs.map key).Nodup) {state : σ}
    (hblank : ∀ x ∈ xs, held state (key x) = blank) {x : β} (hmem : x ∈ xs) :
    held (xs.foldl step state) (key x) = outcome x := by
  induction xs generalizing state with
  | nil => cases hmem
  | cons first rest ih =>
    rw [List.map_cons, List.nodup_cons] at hnodup
    obtain ⟨hfirst, hrest⟩ := List.forall_mem_cons.1 hblank
    have hne : ∀ y ∈ rest, key y ≠ key first := by
      intro y hy hkey
      exact hnodup.1 (hkey ▸ List.mem_map_of_mem (f := key) hy)
    rw [List.foldl_cons]
    rcases List.mem_cons.1 hmem with rfl | hmem
    · -- The steps behind write under other keys.
      rw [held_foldl_of_forall_ne key held hother hne, hself state _ hfirst]
    · refine ih hnodup.2 (fun y hy ↦ ?_) hmem
      rw [hother state first (key y) (hne y hy).symm, hrest y hy]

end Pass

/-! ### Annotations by identity -/

namespace Extraction

/-- Where a reading goes: annotations to one side, problems to the other. -/
def sides : Except (List Problem) Annotations → Option Annotations × Option (List Problem)
  | .ok annotations => (some annotations, none)
  | .error problems => (none, some problems)

/-- What is held under the identity of a declaration. -/
def atDeclaration (extraction : Extraction) (id : DeclId) :
    Option Annotations × Option (List Problem) :=
  (extraction.store.get? id, extraction.declarationProblems.get? id)

/-- What is held under the identity of a module. -/
def atModule (extraction : Extraction) (id : ModuleId) :
    Option Annotations × Option (List Problem) :=
  (extraction.store.getModule? id, extraction.moduleProblems.get? id)

theorem atDeclaration_addDeclaration_of_ne (extraction : Extraction) {declaration : Declaration}
    {id : DeclId} (hne : declaration.id ≠ id) :
    (extraction.addDeclaration declaration).atDeclaration id = extraction.atDeclaration id := by
  unfold addDeclaration
  split <;>
    simp [atDeclaration, AnnotationStore.get?, AnnotationStore.insert, Keyed.get?_insert, hne]

theorem atDeclaration_addDeclaration_self {extraction : Extraction} {declaration : Declaration}
    (hnone : extraction.atDeclaration declaration.id = (none, none)) :
    (extraction.addDeclaration declaration).atDeclaration declaration.id =
      sides declaration.annotations := by
  simp only [atDeclaration, Prod.mk.injEq] at hnone
  unfold addDeclaration
  split <;> rename_i hread <;> rw [hread]
  · simp [atDeclaration, AnnotationStore.get?, AnnotationStore.insert, Keyed.get?_insert, sides,
      hnone.2]
  · simpa [atDeclaration, Keyed.get?_insert, sides] using hnone.1

theorem atDeclaration_addModule (extraction : Extraction) (module : Module) (id : DeclId) :
    (extraction.addModule module).atDeclaration id = extraction.atDeclaration id := by
  unfold addModule
  split <;> rfl

theorem atModule_addDeclaration (extraction : Extraction) (declaration : Declaration)
    (id : ModuleId) :
    (extraction.addDeclaration declaration).atModule id = extraction.atModule id := by
  unfold addDeclaration
  split <;> rfl

theorem atModule_addModule_of_ne (extraction : Extraction) {module : Module} {id : ModuleId}
    (hne : module.id ≠ id) :
    (extraction.addModule module).atModule id = extraction.atModule id := by
  unfold addModule
  split <;>
    simp [atModule, AnnotationStore.getModule?, AnnotationStore.insertModule, Keyed.get?_insert,
      hne]

theorem atModule_addModule_self {extraction : Extraction} {module : Module}
    (hnone : extraction.atModule module.id = (none, none)) :
    (extraction.addModule module).atModule module.id = sides module.annotations := by
  simp only [atModule, Prod.mk.injEq] at hnone
  unfold addModule
  split <;> rename_i hread <;> rw [hread]
  · simp [atModule, AnnotationStore.getModule?, AnnotationStore.insertModule, Keyed.get?_insert,
      sides, hnone.2]
  · simpa [atModule, Keyed.get?_insert, sides] using hnone.1

/-- Reading modules leaves alone what is held under declarations. -/
theorem atDeclaration_foldl_addModule (modules : List Module) (extraction : Extraction)
    (id : DeclId) :
    (modules.foldl addModule extraction).atDeclaration id = extraction.atDeclaration id := by
  induction modules generalizing extraction with
  | nil => rfl
  | cons module modules ih => rw [List.foldl_cons, ih, atDeclaration_addModule]

/-- Reading declarations leaves alone what is held under modules. -/
theorem atModule_foldl_addDeclaration (declarations : List Declaration) (extraction : Extraction)
    (id : ModuleId) :
    (declarations.foldl addDeclaration extraction).atModule id = extraction.atModule id := by
  induction declarations generalizing extraction with
  | nil => rfl
  | cons declaration declarations ih => rw [List.foldl_cons, ih, atModule_addDeclaration]

/-- **Every declaration ends up on exactly one side**, with what reading its marks gives. -/
theorem atDeclaration_process {declarations : List Declaration} {modules : List Module}
    (hnodup : (declarations.map (·.id)).Nodup) {declaration : Declaration}
    (hmem : declaration ∈ declarations) :
    (process declarations modules).atDeclaration declaration.id =
      sides declaration.annotations := by
  rw [process, atDeclaration_foldl_addModule]
  exact held_foldl_of_mem Declaration.id atDeclaration _ _
    (fun extraction _ _ ↦ atDeclaration_addDeclaration_of_ne extraction)
    (fun _ _ ↦ atDeclaration_addDeclaration_self) hnodup (fun _ _ ↦ rfl) hmem

/-- Under no other identity of a declaration is anything held. -/
theorem atDeclaration_process_of_forall_ne {declarations : List Declaration}
    {modules : List Module} {id : DeclId}
    (hne : ∀ declaration ∈ declarations, declaration.id ≠ id) :
    (process declarations modules).atDeclaration id = (none, none) := by
  rw [process, atDeclaration_foldl_addModule]
  exact held_foldl_of_forall_ne Declaration.id atDeclaration
    (fun extraction _ _ ↦ atDeclaration_addDeclaration_of_ne extraction) hne

/-- **Every module ends up on exactly one side**, with what reading its marks gives. -/
theorem atModule_process {declarations : List Declaration} {modules : List Module}
    (hnodup : (modules.map (·.id)).Nodup) {module : Module} (hmem : module ∈ modules) :
    (process declarations modules).atModule module.id = sides module.annotations :=
  held_foldl_of_mem Module.id atModule _ _
    (fun extraction _ _ ↦ atModule_addModule_of_ne extraction)
    (fun _ _ ↦ atModule_addModule_self) hnodup
    (fun other _ ↦ atModule_foldl_addDeclaration declarations empty other.id) hmem

/-- Under no other identity of a module is anything held. -/
theorem atModule_process_of_forall_ne {declarations : List Declaration} {modules : List Module}
    {id : ModuleId} (hne : ∀ module ∈ modules, module.id ≠ id) :
    (process declarations modules).atModule id = (none, none) :=
  (held_foldl_of_forall_ne Module.id atModule
    (fun extraction _ _ ↦ atModule_addModule_of_ne extraction) hne).trans
    (atModule_foldl_addDeclaration declarations empty id)

end Extraction

/-! ### Chains by identity -/

namespace Alias

variable {graph : Graph}

/-- The outcomes of walks are put in one after the other. -/
theorem resolveEach_eq (graph : Graph) (depth : Nat) (starts : List Declaration) :
    resolveEach graph depth starts =
      (starts.map fun start ↦ (start.id, resolve graph depth start)).foldl
        (fun keyed pair ↦ keyed.insert pair.1 pair.2) .empty := by
  rw [List.foldl_map]
  rfl

/-- **What is held of walks** is where each alias leads, and nothing else,
whatever the order of the walks. -/
theorem get?_resolveEach_eq_some (hgraph : graph.WellFormed) (depth : Nat)
    {starts : List Declaration} (hstarts : starts.Perm graph.aliases) {id : DeclId}
    {outcome : Except Problem Chain} :
    (resolveEach graph depth starts).get? id = some outcome ↔
      ∃ start ∈ graph.declarations, start.isAlias ∧ start.id = id ∧
        resolve graph depth start = outcome := by
  have hstart {start : Declaration} : start ∈ starts ↔
      start ∈ graph.declarations ∧ start.isAlias := by
    rw [hstarts.mem_iff, Graph.aliases, List.mem_filter]
  rw [resolveEach_eq, Keyed.get?_foldl_insert, List.mem_map]
  · simp only [hstart, Prod.mk.injEq, and_assoc]
  · intro a ha b hb hid
    obtain ⟨first, hfirst, rfl⟩ := List.mem_map.1 ha
    obtain ⟨second, hsecond, rfl⟩ := List.mem_map.1 hb
    rw [hgraph.declaration_unique (hstart.1 hfirst).1 (hstart.1 hsecond).1 hid]

/-- Under the identity of an alias stands where its own walk leads. -/
theorem get?_resolveAll_of_isAlias (hgraph : graph.WellFormed) (depth : Nat)
    {declaration : Declaration} (hmem : declaration ∈ graph.declarations)
    (halias : declaration.isAlias = true) :
    (resolveAll graph depth).get? declaration.id = some (resolve graph depth declaration) :=
  (get?_resolveEach_eq_some hgraph depth (.refl _)).2 ⟨declaration, hmem, halias, rfl, rfl⟩

/-- Under the identity of what is no alias stands nothing. -/
theorem get?_resolveAll_of_not_isAlias (hgraph : graph.WellFormed) (depth : Nat)
    {declaration : Declaration} (hmem : declaration ∈ graph.declarations)
    (halias : declaration.isAlias = false) :
    (resolveAll graph depth).get? declaration.id = none := by
  refine Option.eq_none_iff_forall_ne_some.2 fun outcome houtcome ↦ ?_
  obtain ⟨start, hstart, hisAlias, hid, -⟩ :=
    (get?_resolveEach_eq_some hgraph depth (.refl _)).1 houtcome
  rw [hgraph.declaration_unique hstart hmem hid, halias] at hisAlias
  cases hisAlias

end Alias
end Exposure
