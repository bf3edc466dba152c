import Exposure.Graph.Draft
import Exposure.Proofs.FirstOccurrences

/-!
# Built graphs

A graph is **built** when some history of additions leads to a draft that settles into it. A
rejected addition leaves no trace, so a history is a sequence of accepted ones.

What a history guarantees is collected in two steps. `Draft.Sound` is the invariant of a draft:
it holds of the empty one and every accepted addition keeps it. Settling the parents changes
nothing but parents, so a built graph inherits all of it and knows its parents besides
(`Graph.WellFormed`). That parent chains end is a matter of its own
(`Exposure.Proofs.Graph.Nesting`).

## What the rest uses

* `WellFormed.declaration?_eq_some`, `WellFormed.module?_eq_some`: an identity finds the
  declaration or module that carries it;
* `WellFormed.declaration_unique`, `WellFormed.module_unique`: identities tell declarations and
  modules apart;
* `WellFormed.mem_traversal`, `WellFormed.traversal_nodup`: the traversal meets every
  declaration, each once.
-/

namespace Exposure.Graph

namespace Draft

/-- **A history of additions.** The draft is what accepted additions have made of the empty
one. -/
inductive Reached : Draft → Prop
  | empty : Reached .empty
  | addModule {draft next : Draft} {name : String} {marks : List Mark} {id : ModuleId}
      (history : Reached draft) (accepted : draft.addModule name marks = .ok (next, id)) :
      Reached next
  | addDeclaration {draft next : Draft} {spec : Spec} {id : DeclId}
      (history : Reached draft) (accepted : draft.addDeclaration spec = .ok (next, id)) :
      Reached next

/-- What additions keep true of a draft. -/
structure Sound (draft : Draft) : Prop where
  /-- Declarations are numbered in order of acceptance. -/
  declaration_ids : draft.declarations.map (·.id) =
    (List.range draft.pending.length).map DeclId.ofIndex
  /-- Modules are numbered in order of acceptance. -/
  module_ids : draft.modules.map (·.id) = (List.range draft.modules.length).map ModuleId.ofIndex
  declaration_names : (draft.declarations.map (·.name)).Nodup
  module_names : (draft.modules.map (·.name)).Nodup
  /-- Every declaration belongs to an accepted module. -/
  owned : ∀ declaration ∈ draft.declarations, ∃ module ∈ draft.modules,
    module.id = declaration.module
  /-- No parent is settled yet. -/
  unsettled : ∀ declaration ∈ draft.declarations, declaration.parent = none
  /-- A target is present exactly on aliases. -/
  targets : ∀ declaration ∈ draft.declarations,
    declaration.target.isSome = declaration.isAlias

/-! ### What an accepted addition is -/

/-- A module is known exactly if its name is among those accepted. -/
theorem isSome_moduleNamed {draft : Draft} {name : String} :
    (draft.moduleNamed name).isSome ↔ name ∈ draft.modules.map (·.name) := by
  simp [moduleNamed, List.find?_isSome]

/-- **A module is accepted exactly when its name is new**; it goes to the end with the next
number. -/
theorem addModule_eq_ok_iff {draft next : Draft} {name : String} {marks : List Mark}
    {id : ModuleId} :
    draft.addModule name marks = .ok (next, id) ↔
      (∀ module ∈ draft.modules, module.name ≠ name) ∧
      id = .ofIndex draft.modules.length ∧
      next = ⟨draft.modules ++ [⟨.ofIndex draft.modules.length, name, marks⟩],
        draft.pending⟩ := by
  have hfound : (draft.moduleNamed name).isSome ↔
      ¬ ∀ module ∈ draft.modules, module.name ≠ name := by
    rw [isSome_moduleNamed, List.mem_map]
    simp
  rw [addModule]
  split
  · rename_i hsome
    exact iff_of_false (by rintro ⟨⟩) fun h ↦ hfound.1 hsome h.1
  · rename_i hnone
    constructor
    · intro h
      cases h
      exact ⟨not_not.1 fun hnew ↦ hnone (hfound.2 hnew), rfl, rfl⟩
    · rintro ⟨-, rfl, rfl⟩
      rfl

/-- What an accepted module fulfils, and the draft with it. -/
theorem addModule_eq_ok {draft next : Draft} {name : String} {marks : List Mark}
    {id : ModuleId} (h : draft.addModule name marks = .ok (next, id)) :
    (∀ module ∈ draft.modules, module.name ≠ name) ∧
      next = ⟨draft.modules ++ [⟨.ofIndex draft.modules.length, name, marks⟩],
        draft.pending⟩ := by
  obtain ⟨hnew, -, hnext⟩ := addModule_eq_ok_iff.1 h
  exact ⟨hnew, hnext⟩

/-- A checked target is there for aliases and for nothing else. -/
theorem checkTarget_eq_ok_iff {name : String} {kind : Kind} {target : Option String} :
    checkTarget name kind target = .ok () ↔ target.isSome = decide (kind = .typeAlias) := by
  cases kind <;> cases target <;> simp [checkTarget]

/-- **A declaration is accepted exactly when its name is new, its target in order and its module
known**; it goes to the end with the next number, still without a parent. -/
theorem addDeclaration_eq_ok_iff {draft next : Draft} {spec : Spec} {id : DeclId} :
    draft.addDeclaration spec = .ok (next, id) ↔
      (∀ declaration ∈ draft.declarations,
        declaration.name ≠ Name.withoutGlobal spec.name) ∧
      spec.target.isSome = decide (spec.kind = .typeAlias) ∧
      ∃ module, draft.moduleNamed spec.module = some module ∧
        id = .ofIndex draft.pending.length ∧
        next = ⟨draft.modules, draft.pending ++
          [⟨⟨.ofIndex draft.pending.length, Name.withoutGlobal spec.name, spec.kind, module.id,
            none, spec.target, spec.marks⟩, spec.parent.map Name.withoutGlobal⟩]⟩ := by
  have hany : (draft.declarations.any fun declaration ↦
      declaration.name = Name.withoutGlobal spec.name) = true ↔
        ¬ ∀ declaration ∈ draft.declarations,
          declaration.name ≠ Name.withoutGlobal spec.name := by
    simp
  rw [addDeclaration]
  dsimp only
  by_cases hnew : ∀ declaration ∈ draft.declarations,
      declaration.name ≠ Name.withoutGlobal spec.name
  · rw [if_neg fun h ↦ hany.1 h hnew]
    rcases draft.moduleNamed spec.module with - | module
    · simp
    · by_cases htarget : spec.target.isSome = decide (spec.kind = .typeAlias)
      · rw [checkTarget_eq_ok_iff.2 htarget]
        -- All checks are passed, and what is accepted is determined.
        constructor
        · intro h
          cases h
          exact ⟨hnew, htarget, module, rfl, rfl, rfl⟩
        · rintro ⟨-, -, _, ⟨⟩, rfl, rfl⟩
          rfl
      · rcases hcheck : checkTarget (Name.withoutGlobal spec.name) spec.kind spec.target with
          fault | _
        · exact iff_of_false (by rintro ⟨⟩) fun h ↦ htarget h.2.1
        · exact absurd (checkTarget_eq_ok_iff.1 hcheck) htarget
  · rw [if_pos (hany.2 hnew)]
    exact iff_of_false (by rintro ⟨⟩) fun h ↦ hnew h.1

/-- What an accepted declaration fulfils, and the draft with it. -/
theorem addDeclaration_eq_ok {draft next : Draft} {spec : Spec} {id : DeclId}
    (h : draft.addDeclaration spec = .ok (next, id)) :
    ∃ module ∈ draft.modules,
      (∀ declaration ∈ draft.declarations,
        declaration.name ≠ Name.withoutGlobal spec.name) ∧
      spec.target.isSome = decide (spec.kind = .typeAlias) ∧
      next = ⟨draft.modules, draft.pending ++
        [⟨⟨.ofIndex draft.pending.length, Name.withoutGlobal spec.name, spec.kind, module.id,
          none, spec.target, spec.marks⟩, spec.parent.map Name.withoutGlobal⟩]⟩ := by
  obtain ⟨hnew, htarget, module, hmodule, -, hnext⟩ := addDeclaration_eq_ok_iff.1 h
  exact ⟨module, List.mem_of_find?_eq_some hmodule, hnew, htarget, hnext⟩

/-! ### The invariant of a draft -/

theorem sound_empty : Sound .empty where
  declaration_ids := rfl
  module_ids := rfl
  declaration_names := List.nodup_nil
  module_names := List.nodup_nil
  owned := by simp [declarations, empty]
  unsettled := by simp [declarations, empty]
  targets := by simp [declarations, empty]

/-- A list without repetition stays so when something new goes to its end. -/
theorem nodup_map_concat {α β : Type} {f : α → β} {xs : List α} {x : α}
    (hxs : (xs.map f).Nodup) (hx : ∀ y ∈ xs, f y ≠ f x) : ((xs ++ [x]).map f).Nodup := by
  rw [List.map_append]
  refine List.Nodup.append hxs (List.nodup_singleton _) fun a ha hb ↦ ?_
  obtain ⟨y, hy, rfl⟩ := List.mem_map.1 ha
  exact hx y hy (by simpa using hb)

theorem Sound.addModule {draft next : Draft} {name : String} {marks : List Mark}
    {id : ModuleId} (hdraft : draft.Sound) (h : draft.addModule name marks = .ok (next, id)) :
    next.Sound := by
  obtain ⟨hnew, rfl⟩ := addModule_eq_ok h
  refine { hdraft with module_ids := ?_, module_names := ?_, owned := ?_ }
  · simp [List.range_succ, hdraft.module_ids]
  · exact nodup_map_concat hdraft.module_names hnew
  · intro declaration hmem
    obtain ⟨module, hmodule, hid⟩ := hdraft.owned declaration hmem
    exact ⟨module, List.mem_append_left _ hmodule, hid⟩

theorem Sound.addDeclaration {draft next : Draft} {spec : Spec} {id : DeclId}
    (hdraft : draft.Sound) (h : draft.addDeclaration spec = .ok (next, id)) : next.Sound := by
  obtain ⟨module, hmodule, hnew, htarget, rfl⟩ := addDeclaration_eq_ok h
  -- What holds of the old declarations and of the new one holds of all.
  have hall {motive : Declaration → Prop} (hold : ∀ d ∈ draft.declarations, motive d)
      (hlast : motive ⟨.ofIndex draft.pending.length, Name.withoutGlobal spec.name, spec.kind,
        module.id, none, spec.target, spec.marks⟩) :
      ∀ d ∈ declarations ⟨draft.modules, draft.pending ++ [⟨⟨.ofIndex draft.pending.length,
        Name.withoutGlobal spec.name, spec.kind, module.id, none, spec.target, spec.marks⟩,
        spec.parent.map Name.withoutGlobal⟩]⟩, motive d := by
    intro d hd
    rw [declarations, List.map_append, List.mem_append] at hd
    rcases hd with hd | hd
    · exact hold d hd
    · rw [List.mem_singleton.1 hd]
      exact hlast
  refine ⟨?_, hdraft.module_ids, ?_, hdraft.module_names, ?_, ?_, ?_⟩
  · have hids := hdraft.declaration_ids
    simp only [declarations] at hids ⊢
    simp [List.range_succ, hids]
  · rw [declarations, List.map_append]
    exact nodup_map_concat hdraft.declaration_names hnew
  · exact hall hdraft.owned ⟨module, hmodule, rfl⟩
  · exact hall hdraft.unsettled rfl
  · exact hall hdraft.targets htarget

/-- **Every draft that a history leads to is sound.** -/
theorem Reached.sound {draft : Draft} (h : draft.Reached) : draft.Sound := by
  induction h with
  | empty => exact sound_empty
  | addModule _ accepted ih => exact ih.addModule accepted
  | addDeclaration _ accepted ih => exact ih.addDeclaration accepted

/-! ### Settling parents -/

/-- Settling a parent changes nothing else, and a settled parent is an accepted name scope. -/
theorem settleParent_eq_ok {accepted : List Declaration} {pending : Pending}
    {declaration : Declaration} (h : settleParent accepted pending = .ok declaration)
    (hnone : pending.declaration.parent = none) :
    declaration = { pending.declaration with parent := declaration.parent } ∧
      ∀ id, declaration.parent = some id → ∃ scope ∈ accepted, scope.id = id ∧
        scope.kind = .scope := by
  unfold settleParent at h
  split at h
  · cases h
    exact ⟨rfl, fun id hid ↦ by rw [hnone] at hid; cases hid⟩
  · split at h
    · cases h
    · rename_i scope hscope
      split at h
      · rename_i hkind
        cases h
        refine ⟨rfl, fun id hid ↦ ⟨scope, List.mem_of_find?_eq_some hscope, ?_, hkind⟩⟩
        exact Option.some.inj hid
      · cases h

/-- Settling a list settles its first member and then the rest. -/
theorem settleParents_cons_eq_ok {accepted : List Declaration} {first : Pending}
    {rest : List Pending} {declarations : List Declaration}
    (h : settleParents accepted (first :: rest) = .ok declarations) :
    ∃ declaration others, settleParent accepted first = .ok declaration ∧
      settleParents accepted rest = .ok others ∧ declarations = declaration :: others := by
  unfold settleParents at h
  split at h
  · cases h
  · rename_i declaration hfirst
    rcases hrest : settleParents accepted rest with fault | others
    · rw [hrest] at h
      cases h
    · rw [hrest] at h
      cases h
      exact ⟨declaration, others, hfirst, rfl, rfl⟩

/-- Each settled declaration comes from a member of the list. -/
theorem exists_settleParent_of_mem {accepted : List Declaration} {pending : List Pending}
    {declarations : List Declaration}
    (h : settleParents accepted pending = .ok declarations) {declaration : Declaration}
    (hmem : declaration ∈ declarations) :
    ∃ one ∈ pending, settleParent accepted one = .ok declaration := by
  induction pending generalizing declarations with
  | nil =>
    cases h
    cases hmem
  | cons first rest ih =>
    obtain ⟨settled, others, hfirst, hrest, rfl⟩ := settleParents_cons_eq_ok h
    rcases List.mem_cons.1 hmem with rfl | hothers
    · exact ⟨first, List.mem_cons_self, hfirst⟩
    · obtain ⟨one, hone, hsettle⟩ := ih hrest hothers
      exact ⟨one, List.mem_cons_of_mem _ hone, hsettle⟩

/-- **A parent is settled exactly if it is among the accepted** and a name scope. -/
theorem exists_settleParent_eq_ok {accepted : List Declaration} {pending : Pending}
    (hnames : (accepted.map (·.name)).Nodup) :
    (∃ declaration, settleParent accepted pending = .ok declaration) ↔
      ∀ name, pending.parentName = some name →
        ∃ scope ∈ accepted, scope.name = name ∧ scope.kind = .scope := by
  rw [settleParent]
  rcases pending.parentName with - | name
  · simp
  · simp only [Option.some.injEq, forall_eq']
    rcases hfound : accepted.find? fun declaration ↦ declaration.name = name with - | parent
    · rw [hfound]
      refine iff_of_false (by rintro ⟨_, ⟨⟩⟩) ?_
      rintro ⟨scope, hscope, hname, -⟩
      exact List.find?_eq_none.1 hfound scope hscope (decide_eq_true hname)
    · rw [hfound]
      have hmem := List.mem_of_find?_eq_some hfound
      have hname : parent.name = name := by simpa using List.find?_some hfound
      dsimp only
      split
      · rename_i hkind
        exact iff_of_true ⟨_, rfl⟩ ⟨parent, hmem, hname, hkind⟩
      · rename_i hkind
        refine iff_of_false (by rintro ⟨_, ⟨⟩⟩) ?_
        rintro ⟨scope, hscope, hscopeName, hscopeKind⟩
        rw [List.inj_on_of_nodup_map hnames hscope hmem (hscopeName.trans hname.symm)]
          at hscopeKind
        exact hkind hscopeKind

/-- A list settles exactly if each of its members does. -/
theorem exists_settleParents_eq_ok {accepted : List Declaration} {pending : List Pending} :
    (∃ declarations, settleParents accepted pending = .ok declarations) ↔
      ∀ one ∈ pending, ∃ declaration, settleParent accepted one = .ok declaration := by
  induction pending with
  | nil => exact iff_of_true ⟨[], rfl⟩ (by simp)
  | cons first rest ih =>
    rw [List.forall_mem_cons, ← ih]
    constructor
    · rintro ⟨declarations, h⟩
      obtain ⟨declaration, others, hfirst, hrest, -⟩ := settleParents_cons_eq_ok h
      exact ⟨⟨declaration, hfirst⟩, ⟨others, hrest⟩⟩
    · rintro ⟨⟨declaration, hfirst⟩, ⟨others, hrest⟩⟩
      refine ⟨declaration :: others, ?_⟩
      rw [settleParents, hfirst, hrest]
      rfl

/-- What settling keeps of each member it keeps of the list. -/
theorem map_of_settleParents {α : Type} {f : Declaration → α} {g : Pending → α}
    {accepted : List Declaration} {pending : List Pending} {declarations : List Declaration}
    (h : settleParents accepted pending = .ok declarations)
    (hkeeps : ∀ one ∈ pending, ∀ declaration, settleParent accepted one = .ok declaration →
      f declaration = g one) :
    declarations.map f = pending.map g := by
  induction pending generalizing declarations with
  | nil =>
    cases h
    rfl
  | cons first rest ih =>
    obtain ⟨settled, others, hfirst, hrest, rfl⟩ := settleParents_cons_eq_ok h
    obtain ⟨hkeepsFirst, hkeepsRest⟩ := List.forall_mem_cons.1 hkeeps
    rw [List.map_cons, List.map_cons, hkeepsFirst settled hfirst, ih hrest hkeepsRest]

/-- What does not look at parents is the same before and after settling. -/
theorem map_settleParents {α : Type} {f : Declaration → α} {accepted : List Declaration}
    {pending : List Pending} {declarations : List Declaration}
    (h : settleParents accepted pending = .ok declarations)
    (hnone : ∀ one ∈ pending, one.declaration.parent = none)
    (hf : ∀ (declaration : Declaration) (parent : Option DeclId),
      f { declaration with parent } = f declaration) :
    declarations.map f = (pending.map (·.declaration)).map f := by
  rw [List.map_map]
  refine map_of_settleParents h fun one hone declaration hsettle ↦ ?_
  obtain ⟨heq, -⟩ := settleParent_eq_ok hsettle (hnone one hone)
  rw [heq, hf]
  rfl

section Settled

variable {draft : Draft} (hdraft : draft.Sound) {declarations : List Declaration}
  (hsettled : settleParents draft.declarations draft.pending = .ok declarations)
include hdraft hsettled

/-- What a draft settles into is what it has accepted, but for the parents. -/
theorem Sound.map_settled {α : Type} {f : Declaration → α}
    (hf : ∀ (declaration : Declaration) (parent : Option DeclId),
      f { declaration with parent } = f declaration) :
    declarations.map f = draft.declarations.map f :=
  map_settleParents hsettled (fun _ hmem ↦ hdraft.unsettled _ (List.mem_map_of_mem hmem)) hf

/-- A settled declaration was accepted without its parent. -/
theorem Sound.accepted_of_settled {declaration : Declaration} (hmem : declaration ∈ declarations) :
    { declaration with parent := none } ∈ draft.declarations := by
  have hmap := hdraft.map_settled hsettled (f := fun d ↦ { d with parent := none }) fun _ _ ↦ rfl
  have himage : { declaration with parent := none } ∈
      draft.declarations.map fun d ↦ { d with parent := none } := hmap ▸ List.mem_map_of_mem hmem
  obtain ⟨accepted, haccepted, heq⟩ := List.mem_map.1 himage
  have hnone := hdraft.unsettled accepted haccepted
  rwa [← heq, ← hnone]

/-- An accepted declaration is settled with a parent or without one. -/
theorem Sound.exists_settled {accepted : Declaration} (hmem : accepted ∈ draft.declarations) :
    ∃ declaration ∈ declarations, { declaration with parent := none } = accepted := by
  have hmap := hdraft.map_settled hsettled (f := fun d ↦ { d with parent := none }) fun _ _ ↦ rfl
  have himage : { accepted with parent := none } ∈
      declarations.map fun d ↦ { d with parent := none } := hmap ▸ List.mem_map_of_mem hmem
  obtain ⟨declaration, hdeclared, heq⟩ := List.mem_map.1 himage
  have hnone := hdraft.unsettled accepted hmem
  exact ⟨declaration, hdeclared, by rw [heq, ← hnone]⟩

end Settled

/-- A draft that settles gives its modules and its settled declarations, whose parent chains
have been checked. -/
theorem build_eq_ok {draft : Draft} {graph : Graph} (h : draft.build = .ok graph) :
    graph.modules = draft.modules ∧
      settleParents draft.declarations draft.pending = .ok graph.declarations ∧
      checkChains graph [] graph.declarations = .ok () := by
  unfold build at h
  split at h
  · cases h
  · rename_i declarations hsettled
    dsimp only at h
    rcases hcheck : checkChains ⟨declarations, draft.modules⟩ [] declarations with fault | _
    · rw [hcheck] at h
      cases h
    · rw [hcheck] at h
      cases h
      exact ⟨rfl, hsettled, hcheck⟩

end Draft

/-! ### Well-formed graphs -/

/-- In a list numbered from one a number finds the member that carries it. -/
theorem nth?_eq_some_of_numbered {α : Type} {xs : List α} {number : α → Nat}
    (hnumbers : xs.map number = (List.range xs.length).map (· + 1)) {x : α} {n : Nat} :
    nth? xs n = some x ↔ x ∈ xs ∧ number x = n := by
  have hat : ∀ (index : Nat) (hlt : index < xs.length), number xs[index] = index + 1 := by
    intro index hlt
    have hget := congrArg (·[index]?) hnumbers
    simpa [hlt] using hget
  constructor
  · intro hfound
    rcases n with - | index
    · cases hfound
    · obtain ⟨hlt, rfl⟩ := List.getElem?_eq_some_iff.1 hfound
      exact ⟨List.getElem_mem hlt, hat index hlt⟩
  · rintro ⟨hmem, rfl⟩
    obtain ⟨index, hlt, rfl⟩ := List.getElem_of_mem hmem
    rw [hat index hlt]
    exact List.getElem?_eq_getElem hlt

/-- A graph that some history of additions leads to. -/
def Built (graph : Graph) : Prop :=
  ∃ draft : Draft, draft.Reached ∧ draft.build = .ok graph

/-- What a history guarantees of the graph it leads to. -/
structure WellFormed (graph : Graph) : Prop where
  declaration_ids : graph.declarations.map (·.id) =
    (List.range graph.declarations.length).map DeclId.ofIndex
  module_ids : graph.modules.map (·.id) = (List.range graph.modules.length).map ModuleId.ofIndex
  declaration_names : (graph.declarations.map (·.name)).Nodup
  module_names : (graph.modules.map (·.name)).Nodup
  owned : ∀ declaration ∈ graph.declarations, ∃ module ∈ graph.modules,
    module.id = declaration.module
  targets : ∀ declaration ∈ graph.declarations,
    declaration.target.isSome = declaration.isAlias
  parents : ∀ declaration ∈ graph.declarations, ∀ id, declaration.parent = some id →
    ∃ scope ∈ graph.declarations, scope.id = id ∧ scope.kind = .scope

/-- **A graph whose parents are settled is well formed**, even before its chains are checked. -/
theorem Draft.Sound.wellFormed {draft : Draft} (hdraft : draft.Sound) {graph : Graph}
    (hmodules : graph.modules = draft.modules)
    (hsettled : settleParents draft.declarations draft.pending = .ok graph.declarations) :
    graph.WellFormed := by
  have hmap {α : Type} {f : Declaration → α}
      (hf : ∀ (declaration : Declaration) (parent : Option DeclId),
        f { declaration with parent } = f declaration) :
      graph.declarations.map f = draft.declarations.map f := hdraft.map_settled hsettled hf
  have hlength : graph.declarations.length = draft.pending.length := by
    simpa [Draft.declarations] using congrArg List.length (hmap (f := fun _ ↦ ()) fun _ _ ↦ rfl)
  refine ⟨?_, ?_, ?_, ?_, ?_, ?_, ?_⟩
  · rw [hmap fun _ _ ↦ rfl, hdraft.declaration_ids, hlength]
  · rw [hmodules, hdraft.module_ids]
  · rw [hmap fun _ _ ↦ rfl]
    exact hdraft.declaration_names
  · rw [hmodules]
    exact hdraft.module_names
  · intro declaration hmem
    rw [hmodules]
    exact hdraft.owned { declaration with parent := none }
      (hdraft.accepted_of_settled hsettled hmem)
  · exact fun declaration hmem ↦
      hdraft.targets { declaration with parent := none }
        (hdraft.accepted_of_settled hsettled hmem)
  · intro declaration hmem id hid
    obtain ⟨pending, hpending, hone⟩ := Draft.exists_settleParent_of_mem hsettled hmem
    obtain ⟨-, hparents⟩ :=
      Draft.settleParent_eq_ok hone (hdraft.unsettled _ (List.mem_map_of_mem hpending))
    obtain ⟨scope, hscope, rfl, hkind⟩ := hparents id hid
    -- The scope is among the settled declarations too, with its identity and kind.
    obtain ⟨settled, hsettled, rfl⟩ := hdraft.exists_settled hsettled hscope
    exact ⟨settled, hsettled, rfl, hkind⟩

/-- **A built graph is well formed.** -/
theorem Built.wellFormed {graph : Graph} (h : graph.Built) : graph.WellFormed := by
  obtain ⟨draft, hreached, hbuild⟩ := h
  obtain ⟨hmodules, hsettled, -⟩ := Draft.build_eq_ok hbuild
  exact hreached.sound.wellFormed hmodules hsettled

namespace WellFormed

variable {graph : Graph} (h : graph.WellFormed)
include h

/-! ### Identities -/

theorem nodup_declaration_ids : (graph.declarations.map (·.id)).Nodup := by
  rw [h.declaration_ids]
  exact List.nodup_range.map fun i j hij ↦ by simpa [DeclId.ofIndex] using hij

theorem nodup_module_ids : (graph.modules.map (·.id)).Nodup := by
  rw [h.module_ids]
  exact List.nodup_range.map fun i j hij ↦ by simpa [ModuleId.ofIndex] using hij

theorem nodup_declarations : graph.declarations.Nodup :=
  List.Nodup.of_map _ h.nodup_declaration_ids

/-- Two declarations with one identity are the same. -/
theorem declaration_unique {a b : Declaration} (ha : a ∈ graph.declarations)
    (hb : b ∈ graph.declarations) (hid : a.id = b.id) : a = b :=
  List.inj_on_of_nodup_map h.nodup_declaration_ids ha hb hid

/-- Two modules with one identity are the same. -/
theorem module_unique {a b : Module} (ha : a ∈ graph.modules) (hb : b ∈ graph.modules)
    (hid : a.id = b.id) : a = b :=
  List.inj_on_of_nodup_map h.nodup_module_ids ha hb hid

/-- Two declarations with one name are the same. -/
theorem declaration_unique_of_name {a b : Declaration} (ha : a ∈ graph.declarations)
    (hb : b ∈ graph.declarations) (hname : a.name = b.name) : a = b :=
  List.inj_on_of_nodup_map h.declaration_names ha hb hname

/-- An identity finds the declaration that carries it. -/
theorem declaration?_eq_some {declaration : Declaration} {id : DeclId} :
    graph.declaration? id = some declaration ↔
      declaration ∈ graph.declarations ∧ declaration.id = id := by
  have hnumbers : graph.declarations.map (·.id.number) =
      (List.range graph.declarations.length).map (· + 1) := by
    have hids := congrArg (List.map DeclId.number) h.declaration_ids
    rw [List.map_map, List.map_map] at hids
    exact hids
  rw [Graph.declaration?, nth?_eq_some_of_numbered hnumbers, DeclId.mk.injEq]

/-- The name under the identity of a declaration is its own. -/
theorem declarationName_eq {declaration : Declaration} (hmem : declaration ∈ graph.declarations) :
    graph.declarationName declaration.id = declaration.name := by
  rw [declarationName, h.declaration?_eq_some.2 ⟨hmem, rfl⟩]
  rfl

/-- An identity finds the module that carries it. -/
theorem module?_eq_some {module : Module} {id : ModuleId} :
    graph.module? id = some module ↔ module ∈ graph.modules ∧ module.id = id := by
  have hnumbers : graph.modules.map (·.id.number) =
      (List.range graph.modules.length).map (· + 1) := by
    have hids := congrArg (List.map ModuleId.number) h.module_ids
    rw [List.map_map, List.map_map] at hids
    exact hids
  rw [Graph.module?, nth?_eq_some_of_numbered hnumbers, ModuleId.mk.injEq]

/-- The name under the identity of a module is its own. -/
theorem moduleName_eq {module : Module} (hmem : module ∈ graph.modules) :
    graph.moduleName module.id = module.name := by
  rw [moduleName, h.module?_eq_some.2 ⟨hmem, rfl⟩]
  rfl

/-- A name finds the module that has it. -/
theorem moduleNamed_eq_some {module : Module} {name : String} :
    graph.moduleNamed name = some module ↔ module ∈ graph.modules ∧ module.name = name :=
  find?_eq_some_of_nodup h.module_names

/-- The run contains the modules that it has by name. -/
theorem containsModule_iff {name : String} :
    graph.containsModule name ↔ ∃ module ∈ graph.modules, module.name = name := by
  rw [containsModule, Option.isSome_iff_exists]
  exact exists_congr fun module ↦ h.moduleNamed_eq_some

/-- A name finds the declaration that has it; a leading global marker is ignored. -/
theorem lookup_eq_some {declaration : Declaration} {name : String} :
    graph.lookup name = some declaration ↔
      declaration ∈ graph.declarations ∧ declaration.name = Name.withoutGlobal name :=
  find?_eq_some_of_nodup h.declaration_names

/-! ### The traversal -/

/-- The traversal meets every declaration. -/
theorem mem_traversal {declaration : Declaration} :
    declaration ∈ graph.traversal ↔ declaration ∈ graph.declarations := by
  constructor
  · intro hmem
    obtain ⟨module, -, hmember⟩ := List.mem_flatMap.1 hmem
    exact (List.mem_filter.1 hmember).1
  · intro hmem
    obtain ⟨module, hmodule, hid⟩ := h.owned declaration hmem
    exact List.mem_flatMap.2 ⟨module, hmodule, List.mem_filter.2 ⟨hmem, by simp [hid]⟩⟩

/-- The traversal meets no declaration twice. -/
theorem traversal_nodup : graph.traversal.Nodup := by
  refine List.nodup_flatMap.2 ⟨fun module _ ↦ h.nodup_declarations.filter _, ?_⟩
  refine (List.pairwise_map.1 h.nodup_module_ids).imp fun {a b} hne ↦ ?_
  intro declaration ha hb
  have hida : declaration.module = a.id := by simpa [members] using (List.mem_filter.1 ha).2
  have hidb : declaration.module = b.id := by simpa [members] using (List.mem_filter.1 hb).2
  exact hne (hida.symm.trans hidb)

/-- The traversal meets the declarations in another order. -/
theorem traversal_perm : graph.traversal.Perm graph.declarations :=
  (List.perm_ext_iff_of_nodup h.traversal_nodup h.nodup_declarations).2 fun _ ↦ h.mem_traversal

end WellFormed
end Exposure.Graph
