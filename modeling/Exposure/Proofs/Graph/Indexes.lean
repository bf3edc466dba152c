import Exposure.Graph.Builder
import Exposure.Proofs.Graph.Built

/-!
# Indexes that agree

The collections of a graph depend on each other: the maps lead to identities of declarations and
modules that have the name, the modules list what names them as its module. They **agree** if
everything that one collection says of another is so (`Indexed.Consistent`).

A builder changes one collection after the other, and while it does so they do not agree. It makes
all its checks before the first change, so an operation that is rejected has changed nothing
(`Builder.of_addModule_eq_error`, `Builder.of_addDeclaration_eq_error`), and one that is accepted
makes all changes (`Builder.Consistent.addModule`, `Builder.Consistent.addDeclaration`).

What is read from collections that agree is what the views of the graph compute
(`Indexed.Consistent.lookup_eq`, `Indexed.Consistent.moduleNamed_eq`,
`Indexed.Consistent.traversal_eq`).
-/

namespace Exposure.Graph

/-- In a list numbered from one, what has a number is changed in its place. -/
theorem modify_eq_map_of_numbered {α : Type} {xs : List α} {number : α → Nat}
    (hnumbers : xs.map number = (List.range xs.length).map (· + 1)) {n : Nat} (hn : 0 < n)
    (change : α → α) :
    xs.modify (n - 1) change = xs.map fun x ↦ if number x = n then change x else x := by
  refine List.ext_getElem? fun position ↦ ?_
  rw [List.getElem?_modify, List.getElem?_map]
  rcases hx : xs[position]? with - | x
  · rfl
  · have hnumber : number x = position + 1 :=
      (nth?_eq_some_of_numbered (n := position + 1) hnumbers).1 hx |>.2
    by_cases hposition : n - 1 = position
    · simp [hposition, show number x = n by omega]
    · simp [hposition, show number x ≠ n by omega]

/-- In a list numbered from one the numbers reach up to its length. -/
theorem bounds_of_numbered {α : Type} {xs : List α} {number : α → Nat}
    (hnumbers : xs.map number = (List.range xs.length).map (· + 1)) {x : α} (hx : x ∈ xs) :
    0 < number x ∧ number x ≤ xs.length := by
  have hnumber := List.mem_map_of_mem (f := number) hx
  rw [hnumbers] at hnumber
  obtain ⟨position, hposition, heq⟩ := List.mem_map.1 hnumber
  rw [← heq]
  exact ⟨Nat.succ_pos position, List.mem_range.1 hposition⟩

section Named

variable {α κ ι : Type} [DecidableEq κ] {keyed : Keyed κ ι} {xs : List α} {name : α → κ}
  {id : α → ι}
  (h : ∀ key i, keyed.get? key = some i ↔ ∃ x ∈ xs, id x = i ∧ name x = key)
include h

/-- Where a map leads from the names in a list to the identities, a name is known if it is in the
list. -/
theorem isSome_get?_iff {key : κ} : (keyed.get? key).isSome ↔ ∃ x ∈ xs, name x = key := by
  rw [Option.isSome_iff_exists]
  constructor
  · rintro ⟨i, hi⟩
    obtain ⟨x, hx, -, hname⟩ := (h key i).1 hi
    exact ⟨x, hx, hname⟩
  · rintro ⟨x, hx, hname⟩
    exact ⟨_, (h key _).2 ⟨x, hx, rfl, hname⟩⟩

/-- Since a name leads to one identity only, no two members of the list share a name. -/
theorem nodup_names (hids : (xs.map id).Nodup) : (xs.map name).Nodup := by
  refine (List.Nodup.of_map _ hids).map_on fun a ha b hb hname ↦
    List.inj_on_of_nodup_map hids ha hb ?_
  have hfound := (h (name a) (id a)).2 ⟨a, ha, rfl, rfl⟩
  exact Option.some.inj (hfound.symm.trans ((h (name a) (id b)).2 ⟨b, hb, rfl, hname.symm⟩))

/-- A map that leads from the names in a list to the identities still does when one more is put into
both, under a name that is new. -/
theorem get?_insert_eq_some_iff (last : α) (hnew : ∀ x ∈ xs, name x ≠ name last) (key : κ) (i : ι) :
    (keyed.insert (name last) (id last)).get? key = some i ↔
      ∃ x ∈ xs ++ [last], id x = i ∧ name x = key := by
  simp only [List.mem_append, List.mem_singleton, or_and_right, exists_or, exists_eq_left]
  rw [Keyed.get?_insert]
  split
  · rename_i hkey
    subst hkey
    have hnone : ¬ ∃ x ∈ xs, id x = i ∧ name x = name last :=
      fun ⟨x, hx, _, hname⟩ ↦ hnew x hx hname
    simp [hnone]
  · rename_i hkey
    rw [h]
    simp [hkey]

end Named

/-- A declaration without its parent. -/
def untied (declaration : Declaration) : Declaration := { declaration with parent := none }

section Untied

variable {before after : List Declaration} (hsame : after.map untied = before.map untied)
include hsame

/-- What is read off declarations without their parents is read off both lists alike. -/
theorem map_eq_of_untied {α : Type} {f : Declaration → α}
    (hf : ∀ declaration, f (untied declaration) = f declaration) : after.map f = before.map f := by
  have hmapped := congrArg (List.map f) hsame
  rw [List.map_map, List.map_map] at hmapped
  simpa [Function.comp_def, hf] using hmapped

/-- What holds of declarations whatever their parents are holds throughout both lists. -/
theorem forall_mem_of_untied {motive : Declaration → Prop}
    (hmotive : ∀ declaration, motive (untied declaration) ↔ motive declaration)
    (hbefore : ∀ declaration ∈ before, motive declaration) :
    ∀ declaration ∈ after, motive declaration := by
  intro declaration hmem
  have huntied : untied declaration ∈ before.map untied := hsame ▸ List.mem_map_of_mem hmem
  obtain ⟨old, hold, heq⟩ := List.mem_map.1 huntied
  exact (hmotive declaration).1 (heq ▸ (hmotive old).2 (hbefore old hold))

end Untied

namespace Indexed

/-- **The collections of a graph agree.** -/
structure Consistent (indexed : Indexed) : Prop where
  /-- Declarations are numbered in the order of loading. -/
  declaration_ids : indexed.declarations.map (·.id) =
    (List.range indexed.declarations.length).map DeclId.ofIndex
  /-- Modules are numbered in the order of loading. -/
  module_ids : indexed.modules.map (·.id) =
    (List.range indexed.modules.length).map ModuleId.ofIndex
  /-- A name leads to the identity of the declaration that has it, and to none if none has it. -/
  byName : ∀ name id, indexed.byName.get? name = some id ↔
    ∃ declaration ∈ indexed.declarations, declaration.id = id ∧ declaration.name = name
  /-- A name leads to the identity of the module that has it, and to none if none has it. -/
  moduleByName : ∀ name id, indexed.moduleByName.get? name = some id ↔
    ∃ module ∈ indexed.modules, module.id = id ∧ module.name = name
  /-- The module of a declaration is there. -/
  owned : ∀ declaration ∈ indexed.declarations, ∃ module ∈ indexed.modules,
    module.id = declaration.module
  /-- A module lists the declarations that name it, in the order of loading. -/
  lists : ∀ module ∈ indexed.modules, module.declarations =
    (indexed.declarations.filter fun declaration ↦ declaration.module = module.id).map (·.id)
  /-- A target is present exactly on aliases. -/
  targets : ∀ declaration ∈ indexed.declarations,
    declaration.target.isSome = declaration.isAlias

namespace Consistent

variable {indexed : Indexed} (h : indexed.Consistent)
include h

theorem declaration_numbers : indexed.declarations.map (·.id.number) =
    (List.range indexed.declarations.length).map (· + 1) := by
  have hids := congrArg (List.map DeclId.number) h.declaration_ids
  rw [List.map_map, List.map_map] at hids
  exact hids

theorem module_numbers : indexed.modules.map (·.id.number) =
    (List.range indexed.modules.length).map (· + 1) := by
  have hids := congrArg (List.map ModuleId.number) h.module_ids
  rw [List.map_map, List.map_map] at hids
  exact hids

/-- An identity finds the declaration that carries it. -/
theorem declaration?_eq_some {id : DeclId} {declaration : Declaration} :
    indexed.declaration? id = some declaration ↔
      declaration ∈ indexed.declarations ∧ declaration.id = id := by
  rw [Indexed.declaration?, nth?_eq_some_of_numbered h.declaration_numbers, DeclId.mk.injEq]

/-- An identity finds the module that carries it. -/
theorem module?_eq_some {id : ModuleId} {module : OwningModule} :
    indexed.module? id = some module ↔ module ∈ indexed.modules ∧ module.id = id := by
  rw [Indexed.module?, nth?_eq_some_of_numbered h.module_numbers, ModuleId.mk.injEq]

/-- Two declarations with one identity are the same. -/
theorem declaration_unique {a b : Declaration} (ha : a ∈ indexed.declarations)
    (hb : b ∈ indexed.declarations) (hid : a.id = b.id) : a = b :=
  Option.some.inj <| (h.declaration?_eq_some.2 ⟨ha, hid⟩).symm.trans
    (h.declaration?_eq_some.2 ⟨hb, rfl⟩)

/-- Two modules with one identity are the same. -/
theorem module_unique {a b : OwningModule} (ha : a ∈ indexed.modules) (hb : b ∈ indexed.modules)
    (hid : a.id = b.id) : a = b :=
  Option.some.inj <| (h.module?_eq_some.2 ⟨ha, hid⟩).symm.trans (h.module?_eq_some.2 ⟨hb, rfl⟩)

/-- A name is taken if some declaration has it. -/
theorem isSome_byName {name : String} : (indexed.byName.get? name).isSome ↔
    ∃ declaration ∈ indexed.declarations, declaration.name = name :=
  isSome_get?_iff h.byName

/-- The name of a module is taken if some module has it. -/
theorem isSome_moduleByName {name : String} : (indexed.moduleByName.get? name).isSome ↔
    ∃ module ∈ indexed.modules, module.name = name :=
  isSome_get?_iff h.moduleByName

theorem declaration_names : (indexed.declarations.map (·.name)).Nodup := by
  refine nodup_names h.byName ?_
  rw [h.declaration_ids]
  exact List.nodup_range.map fun i j hij ↦ by simpa [DeclId.ofIndex] using hij

theorem module_names : (indexed.modules.map (·.name)).Nodup := by
  refine nodup_names h.moduleByName ?_
  rw [h.module_ids]
  exact List.nodup_range.map fun i j hij ↦ by simpa [ModuleId.ofIndex] using hij

/-! ### Parents -/

/-- **Collections that agree still do when parents are put in**: none speaks of parents. -/
theorem retied {declarations : List Declaration}
    (hsame : declarations.map untied = indexed.declarations.map untied) :
    Consistent { indexed with declarations } where
  declaration_ids := by
    have hlength := congrArg List.length hsame
    rw [List.length_map, List.length_map] at hlength
    rw [map_eq_of_untied hsame fun _ ↦ rfl, hlength, h.declaration_ids]
  module_ids := h.module_ids
  byName name id := by
    have hpairs : (declarations.map fun declaration ↦ (declaration.id, declaration.name)) =
        indexed.declarations.map fun declaration ↦ (declaration.id, declaration.name) :=
      map_eq_of_untied hsame fun _ ↦ rfl
    have hpair (xs : List Declaration) :
        (∃ declaration ∈ xs, declaration.id = id ∧ declaration.name = name) ↔
          (id, name) ∈ xs.map fun declaration ↦ (declaration.id, declaration.name) := by
      simp [List.mem_map]
    rw [h.byName, hpair, hpair, hpairs]
  moduleByName := h.moduleByName
  owned := forall_mem_of_untied hsame (fun _ ↦ Iff.rfl) h.owned
  lists module hmodule := by
    have hlisted (xs : List Declaration) :
        (xs.filter fun declaration ↦ declaration.module = module.id).map (·.id) =
          ((xs.map untied).filter fun declaration ↦ declaration.module = module.id).map (·.id) := by
      rw [List.filter_map, List.map_map]
      rfl
    rw [h.lists module hmodule, hlisted, hlisted declarations, hsame]
  targets := forall_mem_of_untied hsame (fun _ ↦ Iff.rfl) h.targets

/-! ### Views of the graph -/

/-- **A name leads to what is found under it** among the declarations. -/
theorem lookup_eq (name : String) :
    indexed.lookup name = (indexed.graph.lookup name).map (·.id) := by
  refine Option.ext fun id ↦ ?_
  rw [Indexed.lookup, h.byName, Option.map_eq_some_iff]
  refine exists_congr fun declaration ↦ ?_
  have hfound : indexed.graph.lookup name = some declaration ↔
      declaration ∈ indexed.declarations ∧ declaration.name = Name.withoutGlobal name :=
    find?_eq_some_of_nodup h.declaration_names
  rw [hfound, and_assoc, and_comm (a := declaration.id = id)]

/-- **The name of a module leads to what is found under it** among the modules. -/
theorem moduleNamed_eq (name : String) :
    indexed.moduleNamed name = (indexed.graph.moduleNamed name).map (·.id) := by
  have hnames : (indexed.graph.modules.map (·.name)).Nodup := by
    rw [Indexed.graph, List.map_map]
    exact h.module_names
  refine Option.ext fun id ↦ ?_
  rw [Indexed.moduleNamed, h.moduleByName, Option.map_eq_some_iff]
  have hfound {module : Module} : indexed.graph.moduleNamed name = some module ↔
      module ∈ indexed.graph.modules ∧ module.name = name := find?_eq_some_of_nodup hnames
  constructor
  · rintro ⟨module, hmem, hid, hname⟩
    exact ⟨module.toModule, hfound.2 ⟨List.mem_map_of_mem hmem, hname⟩, hid⟩
  · rintro ⟨found, hnamed, hid⟩
    obtain ⟨hmem, hname⟩ := hfound.1 hnamed
    obtain ⟨module, hmodule, rfl⟩ := List.mem_map.1 hmem
    exact ⟨module, hmodule, hid, hname⟩

theorem containsModule_eq (name : String) :
    indexed.containsModule name = indexed.graph.containsModule name := by
  have hfound := congrArg Option.isSome (h.moduleNamed_eq name)
  rw [Option.isSome_map] at hfound
  exact hfound

/-- **The lists of the modules are the traversal** of the graph. -/
theorem traversal_eq : indexed.traversal = indexed.graph.traversal.map (·.id) := by
  rw [Indexed.traversal, Graph.traversal, List.map_flatMap, Indexed.graph, List.flatMap_map]
  exact List.flatMap_congr fun module hmodule ↦ h.lists module hmodule

end Consistent
end Indexed

namespace Builder

/-- **The collections of a builder agree**, and the scopes to be looked up are those of declarations
that are there, each noted once, while no declaration has its parent yet. -/
structure Consistent (builder : Builder) : Prop extends builder.toIndexed.Consistent where
  unsettled : ∀ declaration ∈ builder.declarations, declaration.parent = none
  noted : ∀ child name, (child, name) ∈ builder.pendingParents →
    ∃ declaration ∈ builder.declarations, declaration.id = child
  notes : builder.pendingParents.Pairwise fun one other ↦ one.1.number < other.1.number

/-! ### What an operation does -/

variable {builder next : Builder}

/-- A module after a declaration was given to some module. -/
def receive (module : ModuleId) (id : DeclId) (owner : OwningModule) : OwningModule :=
  if owner.id = module then { owner with declarations := owner.declarations ++ [id] } else owner

@[simp]
theorem toModule_receive (module : ModuleId) (id : DeclId) (owner : OwningModule) :
    (receive module id owner).toModule = owner.toModule := by
  rw [receive]
  split <;> rfl

/-- What a builder holds of a declaration that it accepts into a module. -/
def entry (builder : Builder) (spec : Spec) (module : ModuleId) : Declaration :=
  ⟨.ofIndex builder.declarations.length, Name.withoutGlobal spec.name, spec.kind, module, none,
    spec.target, spec.marks⟩

/-- The builder after it has accepted a declaration into a module. -/
def declared (builder : Builder) (spec : Spec) (module : ModuleId) : Builder where
  modules := builder.modules.modify module.index fun owner ↦
    { owner with declarations := owner.declarations ++ [.ofIndex builder.declarations.length] }
  moduleByName := builder.moduleByName
  declarations := builder.declarations ++ [builder.entry spec module]
  byName := builder.byName.insert (Name.withoutGlobal spec.name)
    (.ofIndex builder.declarations.length)
  pendingParents := builder.pendingParents ++ (spec.parent.map fun name ↦
    (DeclId.ofIndex builder.declarations.length, Name.withoutGlobal name)).toList

/-- Adding a module changes nothing, or makes all its changes. -/
theorem addModule_eq (builder : Builder) (name : String) (marks : List Mark) :
    addModule name marks builder =
      if (builder.moduleByName.get? name).isSome then .error (.duplicateModule name) builder
      else .ok (.ofIndex builder.modules.length)
        { builder with
          moduleByName := builder.moduleByName.insert name (.ofIndex builder.modules.length)
          modules :=
            builder.modules ++ [⟨⟨.ofIndex builder.modules.length, name, marks⟩, []⟩] } := by
  show (if (builder.moduleByName.get? name).isSome then _ else _ : EStateM _ _ _) builder = _
  split <;> rfl

/-- Adding a declaration changes nothing, or makes all its changes. -/
theorem addDeclaration_eq (builder : Builder) (spec : Spec) :
    addDeclaration spec builder =
      if (builder.byName.get? (Name.withoutGlobal spec.name)).isSome then
        .error (.duplicateDeclaration (Name.withoutGlobal spec.name)) builder
      else match builder.moduleByName.get? spec.module with
        | none => .error (.unknownModule (Name.withoutGlobal spec.name) spec.module) builder
        | some module =>
          match Draft.checkTarget (Name.withoutGlobal spec.name) spec.kind spec.target with
          | .error fault => .error fault builder
          | .ok () =>
            .ok (.ofIndex builder.declarations.length) (builder.declared spec module) := by
  show (if (builder.byName.get? (Name.withoutGlobal spec.name)).isSome then _ else _ :
    EStateM _ _ _) builder = _
  split
  · rfl
  · show (match builder.moduleByName.get? spec.module with
      | none => _
      | some module => _ : EStateM _ _ _) builder = _
    rcases builder.moduleByName.get? spec.module with - | module
    · rfl
    · dsimp only
      rcases Draft.checkTarget (Name.withoutGlobal spec.name) spec.kind spec.target with fault | _
      · rfl
      · rcases hparent : spec.parent with - | parent
        · rw [declared, hparent, Option.map_none, Option.toList_none, List.append_nil]
          rfl
        · rw [declared, hparent]
          rfl

/-! ### What an operation keeps -/

/-- **A module that is rejected changes nothing.** -/
theorem of_addModule_eq_error {name : String} {marks : List Mark} {fault : Fault}
    (h : addModule name marks builder = .error fault next) : next = builder := by
  rw [addModule_eq] at h
  split at h <;> cases h
  rfl

/-- **A declaration that is rejected changes nothing.** -/
theorem of_addDeclaration_eq_error {spec : Spec} {fault : Fault}
    (h : addDeclaration spec builder = .error fault next) : next = builder := by
  rw [addDeclaration_eq] at h
  split at h
  · cases h
    rfl
  · split at h
    · cases h
      rfl
    · split at h <;> cases h
      rfl

namespace Consistent

variable (h : builder.Consistent)
include h

theorem addModule {name : String} {marks : List Mark} {id : ModuleId}
    (hadd : Builder.addModule name marks builder = .ok id next) : next.Consistent := by
  rw [addModule_eq] at hadd
  split at hadd
  · cases hadd
  · rename_i htaken
    have hnew : ∀ module ∈ builder.modules, module.name ≠ name := fun module hmem hname ↦
      htaken (h.isSome_moduleByName.2 ⟨module, hmem, hname⟩)
    cases hadd
    refine { h with module_ids := ?_, moduleByName := ?_, owned := ?_, lists := ?_ }
    · simp [List.range_succ, h.module_ids]
    · exact get?_insert_eq_some_iff h.moduleByName ⟨⟨_, name, marks⟩, []⟩ hnew
    · intro declaration hmem
      obtain ⟨module, hmodule, hid⟩ := h.owned declaration hmem
      exact ⟨module, List.mem_append_left _ hmodule, hid⟩
    · intro module hmodule
      rcases List.mem_append.1 hmodule with hold | hlast
      · exact h.lists module hold
      · -- The identity of the new module is new, so no declaration names it.
        rw [List.mem_singleton.1 hlast]
        refine (List.map_eq_nil_iff.2 (List.filter_eq_nil_iff.2 fun declaration hmem ↦ ?_)).symm
        obtain ⟨owner, howner, hid⟩ := h.owned declaration hmem
        have hbound := (bounds_of_numbered h.module_numbers howner).2
        simp only [decide_eq_true_eq, ← hid]
        intro heq
        rw [heq] at hbound
        exact absurd hbound (Nat.not_succ_le_self _)

/-- The modules of a builder that has accepted a declaration: the one that owns it has received
it. -/
theorem modules_declared (spec : Spec) {module : OwningModule} (hmem : module ∈ builder.modules) :
    (builder.declared spec module.id).modules =
      builder.modules.map (receive module.id (.ofIndex builder.declarations.length)) := by
  rw [declared, ModuleId.index, modify_eq_map_of_numbered h.module_numbers
    (bounds_of_numbered h.module_numbers hmem).1]
  simp only [← ModuleId.mk.injEq]
  rfl

theorem module_ids_declared (spec : Spec) {module : OwningModule}
    (hmem : module ∈ builder.modules) :
    (builder.declared spec module.id).modules.map (·.id) = builder.modules.map (·.id) := by
  rw [h.modules_declared spec hmem, List.map_map]
  exact List.map_congr_left fun owner _ ↦ by simp

/-- What is said of some module then, by its identity and its name, is said of one that was
there. -/
theorem exists_mem_modules_declared_iff (spec : Spec) {module : OwningModule}
    (hmem : module ∈ builder.modules) (said : Module → Prop) :
    (∃ owner ∈ (builder.declared spec module.id).modules, said owner.toModule) ↔
      ∃ owner ∈ builder.modules, said owner.toModule := by
  rw [h.modules_declared spec hmem]
  simp

/-- The modules list the declarations that name them, the one that was accepted among them. -/
theorem lists_declared (spec : Spec) {module : OwningModule} (hmem : module ∈ builder.modules) :
    ∀ owner ∈ (builder.declared spec module.id).modules, owner.declarations =
      ((builder.declared spec module.id).declarations.filter fun declaration ↦
        declaration.module = owner.id).map (·.id) := by
  rw [h.modules_declared spec hmem]
  refine List.forall_mem_map.2 fun owner howner ↦ ?_
  show (receive _ _ owner).declarations = (List.filter _ (_ ++ [_])).map _
  rw [List.filter_append, List.map_append, toModule_receive, ← h.lists owner howner, receive]
  -- The last declaration belongs to its module and to no other.
  by_cases hid : owner.id = module.id
  · simp [entry, hid]
  · simp [entry, hid, Ne.symm hid]

/-- Scopes are noted for declarations that are there, the one that was accepted among them. -/
theorem noted_declared (spec : Spec) (module : ModuleId) (child : DeclId) (name : String)
    (hnoted : (child, name) ∈ (builder.declared spec module).pendingParents) :
    ∃ declaration ∈ (builder.declared spec module).declarations, declaration.id = child := by
  rcases List.mem_append.1 hnoted with hnoted | hlast
  · obtain ⟨declaration, hdeclaration, hid⟩ := h.noted child name hnoted
    exact ⟨declaration, List.mem_append_left _ hdeclaration, hid⟩
  · obtain ⟨parent, -, heq⟩ := Option.map_eq_some_iff.1 (Option.mem_toList.1 hlast)
    cases heq
    exact ⟨_, List.mem_append_right _ (List.mem_singleton_self _), rfl⟩

/-- No declaration is noted twice, since the one that was accepted has a higher number. -/
theorem notes_declared (spec : Spec) (module : ModuleId) :
    (builder.declared spec module).pendingParents.Pairwise fun one other ↦
      one.1.number < other.1.number := by
  refine List.pairwise_append.2 ⟨h.notes, ?_, fun one hone other hother ↦ ?_⟩
  · cases spec.parent <;> simp
  · obtain ⟨parent, -, rfl⟩ := Option.map_eq_some_iff.1 (Option.mem_toList.1 hother)
    obtain ⟨declaration, hdeclaration, hid⟩ := h.noted one.1 one.2 hone
    rw [← hid]
    exact Nat.lt_succ_of_le (bounds_of_numbered h.declaration_numbers hdeclaration).2

/-- The collections agree after a declaration under a new name has gone into a module that is
there. -/
theorem declared {spec : Spec} {module : OwningModule} (hmem : module ∈ builder.modules)
    (hnew : ∀ declaration ∈ builder.declarations,
      declaration.name ≠ Name.withoutGlobal spec.name)
    (htarget : spec.target.isSome = decide (spec.kind = .typeAlias)) :
    (builder.declared spec module.id).Consistent where
  declaration_ids := by simp [Builder.declared, entry, List.range_succ, h.declaration_ids]
  module_ids := by
    rw [h.module_ids_declared spec hmem, h.module_ids, h.modules_declared spec hmem,
      List.length_map]
  byName := get?_insert_eq_some_iff h.byName (builder.entry spec module.id) hnew
  moduleByName name id := (h.moduleByName name id).trans
    (h.exists_mem_modules_declared_iff spec hmem fun owner ↦
      owner.id = id ∧ owner.name = name).symm
  owned := by
    have hthere (id : ModuleId) := h.exists_mem_modules_declared_iff spec hmem (·.id = id)
    refine List.forall_mem_append.2 ⟨fun declaration hdeclaration ↦ ?_,
      List.forall_mem_singleton.2 ?_⟩
    · exact (hthere declaration.module).2 (h.owned declaration hdeclaration)
    · exact (hthere module.id).2 ⟨module, hmem, rfl⟩
  lists := h.lists_declared spec hmem
  targets := List.forall_mem_append.2 ⟨h.targets, List.forall_mem_singleton.2 htarget⟩
  unsettled := List.forall_mem_append.2 ⟨h.unsettled, List.forall_mem_singleton.2 rfl⟩
  noted := h.noted_declared spec module.id
  notes := h.notes_declared spec module.id

/-- **A declaration that is accepted** leaves collections that agree. -/
theorem addDeclaration {spec : Spec} {id : DeclId}
    (hadd : Builder.addDeclaration spec builder = .ok id next) : next.Consistent := by
  rw [addDeclaration_eq] at hadd
  split at hadd
  · cases hadd
  · rename_i htaken
    have hnew : ∀ declaration ∈ builder.declarations,
        declaration.name ≠ Name.withoutGlobal spec.name := fun declaration hmem hname ↦
      htaken (h.isSome_byName.2 ⟨declaration, hmem, hname⟩)
    split at hadd
    · cases hadd
    · rename_i id hmodule
      obtain ⟨module, hmem, rfl, -⟩ := (h.moduleByName _ _).1 hmodule
      split at hadd
      · cases hadd
      · rename_i hcheck
        cases hadd
        exact h.declared hmem hnew (Draft.checkTarget_eq_ok_iff.1 hcheck)

end Consistent

end Builder
end Exposure.Graph
