import Exposure.Proofs.Graph.Indexes

/-!
# Builders and drafts

A draft is what a builder comes to, told without indexes: the modules and the declarations that were
accepted, each declaration with the name of the scope around it. A builder and a draft **agree** if
the builder holds just these (`Builder.Agrees`), with collections that agree with each other.

Whatever is done with a builder is done with the draft alike: an operation is accepted by both, and
they agree afterwards, or it is rejected by both with the same fault, and the builder is as it was
(`Builder.Agrees.addModule`, `Builder.Agrees.addDeclaration`). In the end they are built into the
same graph (`Builder.Agrees.build`), and the collections of a graph that is built agree
(`Builder.Agrees.consistent_of_build`). So what is proved of graphs that drafts are built into holds
of what builders hand over.
-/

namespace Exposure.Graph

/-- The scope that is to be looked up for a declaration. -/
def Pending.noted? (pending : Pending) : Option (DeclId × String) :=
  pending.parentName.map fun name ↦ (pending.declaration.id, name)

namespace Builder

/-- **A builder agrees with a draft**: it holds the same modules, the same declarations and the same
names of scopes. -/
structure Agrees (builder : Builder) (draft : Draft) : Prop where
  consistent : builder.Consistent
  modules : builder.modules.map (·.toModule) = draft.modules
  declarations : builder.declarations = draft.declarations
  pendingParents : builder.pendingParents = draft.pending.filterMap Pending.noted?

/-- What an operation does with a builder is what it does with a draft. -/
inductive Matches {α : Type} (before : Builder) :
    EStateM.Result Fault Builder α → Except Fault (Draft × α) → Prop
  | accepted {after : Builder} {next : Draft} {answer : α} (agrees : after.Agrees next) :
      Matches before (.ok answer after) (.ok (next, answer))
  | rejected {fault : Fault} : Matches before (.error fault before) (.error fault)

/-- The builders and drafts to start from agree. -/
theorem agrees_empty : empty.Agrees .empty where
  consistent :=
    { declaration_ids := rfl
      module_ids := rfl
      byName := by simp [empty]
      moduleByName := by simp [empty]
      owned := by simp [empty]
      lists := by simp [empty]
      targets := by simp [empty]
      unsettled := by simp [empty]
      noted := by simp [empty]
      notes := List.Pairwise.nil }
  modules := rfl
  declarations := rfl
  pendingParents := rfl

namespace Agrees

variable {builder : Builder} {draft : Draft} (h : builder.Agrees draft)
include h

theorem length_modules : builder.modules.length = draft.modules.length := by
  rw [← h.modules, List.length_map]

theorem length_declarations : builder.declarations.length = draft.pending.length := by
  rw [h.declarations, Draft.declarations, List.length_map]

/-- **A module is accepted by both or by none.** -/
theorem addModule (name : String) (marks : List Mark) :
    Matches builder (Builder.addModule name marks builder) (draft.addModule name marks) := by
  have htaken : (builder.moduleByName.get? name).isSome ↔ (draft.moduleNamed name).isSome := by
    rw [h.consistent.isSome_moduleByName, Draft.isSome_moduleNamed, ← h.modules]
    simp
  rw [addModule_eq, Draft.addModule]
  by_cases hknown : (builder.moduleByName.get? name).isSome
  · rw [if_pos hknown, if_pos (htaken.1 hknown)]
    exact .rejected
  · have hconsistent := h.consistent.addModule
      ((addModule_eq builder name marks).trans (if_neg hknown))
    rw [if_neg hknown, if_neg (mt htaken.2 hknown), ← h.length_modules]
    exact .accepted ⟨hconsistent, by simp [h.modules], h.declarations, h.pendingParents⟩

/-- A name leads to a module of the builder as it does in the draft. -/
theorem moduleByName_eq (name : String) :
    builder.moduleByName.get? name = (draft.moduleNamed name).map (·.id) := by
  have hgraph : builder.graph.moduleNamed name = draft.moduleNamed name := by
    rw [Graph.moduleNamed, Draft.moduleNamed, ← h.modules]
    rfl
  exact hgraph ▸ h.consistent.moduleNamed_eq name

/-- A builder and a draft that agree still do when both have accepted a declaration. -/
theorem declared {spec : Spec} {module : OwningModule}
    (hconsistent : (builder.declared spec module.id).Consistent) (hmem : module ∈ builder.modules) :
    (builder.declared spec module.id).Agrees ⟨draft.modules, draft.pending ++
      [⟨builder.entry spec module.id, spec.parent.map Name.withoutGlobal⟩]⟩ where
  consistent := hconsistent
  modules := by
    rw [h.consistent.modules_declared spec hmem, List.map_map, ← h.modules]
    exact List.map_congr_left fun owner _ ↦ toModule_receive ..
  declarations := by
    rw [Draft.declarations, List.map_append]
    exact congrArg (· ++ _) h.declarations
  pendingParents := by
    rw [List.filterMap_append, ← h.pendingParents]
    cases hparent : spec.parent <;> simp [Builder.declared, Pending.noted?, entry, hparent]

/-- **A declaration is accepted by both or by none**, and rejected with the same fault. -/
theorem addDeclaration (spec : Spec) :
    Matches builder (Builder.addDeclaration spec builder) (draft.addDeclaration spec) := by
  have htaken : (builder.byName.get? (Name.withoutGlobal spec.name)).isSome ↔
      (draft.declarations.any fun declaration ↦
        declaration.name = Name.withoutGlobal spec.name) = true := by
    rw [h.consistent.isSome_byName, List.any_eq_true, h.declarations]
    simp
  rw [addDeclaration_eq, Draft.addDeclaration, h.moduleByName_eq]
  dsimp only
  by_cases hknown : (builder.byName.get? (Name.withoutGlobal spec.name)).isSome
  · rw [if_pos hknown, if_pos (htaken.1 hknown)]
    exact .rejected
  · rw [if_neg hknown, if_neg (mt htaken.2 hknown)]
    rcases hfound : draft.moduleNamed spec.module with - | found
    · exact .rejected
    · dsimp only [Option.map_some]
      rcases hcheck : Draft.checkTarget (Name.withoutGlobal spec.name) spec.kind spec.target with
        fault | _
      · exact .rejected
      · -- All checks are passed. The module that was found is one of the builder's.
        have hid := (h.moduleByName_eq spec.module).trans (congrArg (Option.map (·.id)) hfound)
        obtain ⟨module, hmem, hmodule, -⟩ := (h.consistent.moduleByName _ _).1 hid
        have hnew : ∀ declaration ∈ builder.declarations,
            declaration.name ≠ Name.withoutGlobal spec.name := fun declaration hmem hname ↦
          hknown (h.consistent.isSome_byName.2 ⟨declaration, hmem, hname⟩)
        have hdeclared := h.declared
          (h.consistent.declared hmem hnew (Draft.checkTarget_eq_ok_iff.1 hcheck)) hmem
        rw [entry, hmodule, h.length_declarations] at hdeclared
        dsimp only
        rw [h.length_declarations]
        exact .accepted hdeclared

end Agrees

/-! ### Looking up scopes -/

/-- Looking up a scope changes nothing, or the parent of one declaration. -/
theorem settleParent_eq (builder : Builder) (child : DeclId) (name : String) :
    settleParent child name builder =
      match builder.byName.get? name with
      | none => .error (.unknownParent (builder.graph.declarationName child) name) builder
      | some parent =>
        if (builder.declaration? parent).map (·.kind) = some .scope then
          .ok () { builder with
            declarations := builder.declarations.modify child.index fun declaration ↦
              { declaration with parent := some parent } }
        else .error (.parentNotScope (builder.graph.declarationName child) name) builder := by
  show (match builder.byName.get? name with
    | none => _
    | some parent => _ : EStateM _ _ _) builder = _
  rcases builder.byName.get? name with - | parent
  · rfl
  · show (if (builder.declaration? parent).map (·.kind) = some .scope then _ else _ :
      EStateM _ _ _) builder = _
    dsimp only
    split <;> rfl

/-- Looking up scopes looks up the first and then the others, unless the first is not there. -/
theorem settleParents_cons (builder : Builder) (child : DeclId) (name : String)
    (rest : List (DeclId × String)) :
    settleParents ((child, name) :: rest) builder =
      match settleParent child name builder with
      | .error fault after => .error fault after
      | .ok () next => settleParents rest next := by
  show EStateM.bind (settleParent child name) (fun _ ↦ settleParents rest) builder = _
  rw [EStateM.bind]
  rcases settleParent child name builder with ⟨_, next⟩ | ⟨fault, after⟩ <;> rfl

/-- In a list without repetition what carries an identity is replaced in its place. -/
theorem map_replace {α ι : Type} [DecidableEq ι] {id : α → ι} {before after : List α} {x : α}
    (hnodup : ((before ++ x :: after).map id).Nodup) (y : α) :
    ((before ++ x :: after).map fun other ↦ if id other = id x then y else other) =
      before ++ y :: after := by
  rw [List.map_append, List.map_cons, List.nodup_middle, List.nodup_cons,
    ← List.map_append] at hnodup
  have hother : ∀ other ∈ before ++ after,
      (if id other = id x then y else other) = other := fun other hmem ↦
    if_neg fun heq ↦ hnodup.1 (List.mem_map.2 ⟨other, hmem, heq⟩)
  obtain ⟨hbefore, hafter⟩ := List.forall_mem_append.1 hother
  rw [List.map_append, List.map_cons, if_pos rfl, List.map_congr_left hbefore,
    List.map_congr_left hafter, List.map_id', List.map_id']

/-- **A builder whose scopes are being looked up.** Its map leads where the accepted declarations
are, and but for parents its declarations are those. -/
structure Settling (builder : Builder) (accepted : List Declaration) : Prop where
  numbers : accepted.map (·.id.number) = (List.range accepted.length).map (· + 1)
  byName : ∀ name, builder.byName.get? name =
    (accepted.find? fun declaration ↦ declaration.name = name).map (·.id)
  same : builder.declarations.map untied = accepted.map untied

/-- What comes of looking up scopes behind the declarations that are settled: the same fault, or
the same declarations behind those. -/
def SettledAs (result : EStateM.Result Fault Builder Unit) (builder : Builder)
    (settled : List Declaration) : Except Fault (List Declaration) → Prop
  | .error fault => ∃ after, result = .error fault after
  | .ok declarations => result = .ok () { builder with declarations := settled ++ declarations }

theorem SettledAs.cons {result : EStateM.Result Fault Builder Unit} {builder : Builder}
    {settled replaced : List Declaration} {declaration : Declaration}
    {outcome : Except Fault (List Declaration)}
    (h : SettledAs result { builder with declarations := replaced } (settled ++ [declaration])
      outcome) :
    SettledAs result builder settled (outcome.map (declaration :: ·)) := by
  rcases outcome with fault | declarations
  · exact h
  · rw [SettledAs, List.append_assoc] at h
    exact h

namespace Settling

variable {builder : Builder} {accepted : List Declaration} (h : builder.Settling accepted)
include h

theorem length_eq : builder.declarations.length = accepted.length := by
  simpa using congrArg List.length h.same

theorem builder_numbers : builder.declarations.map (·.id.number) =
    (List.range builder.declarations.length).map (· + 1) := by
  have hnumbers := congrArg (List.map fun declaration ↦ declaration.id.number) h.same
  rw [List.map_map, List.map_map] at hnumbers
  rw [h.length_eq, ← h.numbers]
  exact hnumbers

theorem nodup_ids : (builder.declarations.map (·.id)).Nodup := by
  have hnodup : ((builder.declarations.map (·.id)).map (·.number)).Nodup := by
    rw [List.map_map]
    show (builder.declarations.map (·.id.number)).Nodup
    rw [h.builder_numbers]
    exact List.nodup_range.map fun _ _ ↦ Nat.succ.inj
  exact hnodup.of_map

/-- What a builder holds in the place of an accepted declaration is of the same kind. -/
theorem kind_eq {scope : Declaration} (hmem : scope ∈ accepted) :
    (builder.declaration? scope.id).map (·.kind) = some scope.kind := by
  have hplace {xs : List Declaration} (n : Nat) :
      (nth? xs n).map (·.kind) = (nth? (xs.map untied) n).map (·.kind) := by
    rw [nth?_map, Option.map_map]
    rfl
  have hfound := (nth?_eq_some_of_numbered h.numbers).2 ⟨hmem, rfl⟩
  rw [Indexed.declaration?, hplace, h.same, ← hplace, hfound]
  rfl

/-- **A scope is looked up as it is settled**: it becomes the parent of the declaration, in its
place, or the same fault is found. -/
theorem settleParent {pending : Pending} (hmem : pending.declaration ∈ builder.declarations)
    {name : String} (hname : pending.parentName = some name) :
    Builder.settleParent pending.declaration.id name builder =
      match Draft.settleParent accepted pending with
      | .error fault => .error fault builder
      | .ok declaration => .ok () { builder with
        declarations := builder.declarations.map fun other ↦
          if other.id = pending.declaration.id then declaration else other } := by
  have hchild : builder.graph.declarationName pending.declaration.id =
      pending.declaration.name := by
    have hfound := (nth?_eq_some_of_numbered h.builder_numbers).2 ⟨hmem, rfl⟩
    rw [declarationName, Graph.declaration?]
    exact congrArg (Option.elim · "" (·.name)) hfound
  rw [settleParent_eq, h.byName, hchild, Draft.settleParent, hname]
  rcases hscope : accepted.find? fun declaration ↦ declaration.name = name with - | scope
  · simp [hscope]
  · have hkind := h.kind_eq (List.mem_of_find?_eq_some hscope)
    simp only [hscope, Option.map_some, hkind, Option.some.injEq]
    split
    · -- Numbers tell places, so what is changed in its place is what has the identity.
      have hplace : builder.declarations.modify pending.declaration.id.index
          (fun declaration ↦ { declaration with parent := some scope.id }) =
          builder.declarations.map fun other ↦ if other.id = pending.declaration.id then
            { pending.declaration with parent := some scope.id } else other := by
        rw [DeclId.index, modify_eq_map_of_numbered h.builder_numbers
          (bounds_of_numbered h.builder_numbers hmem).1]
        refine List.map_congr_left fun other hother ↦ ?_
        by_cases hid : other.id = pending.declaration.id
        · rw [if_pos hid, if_pos (congrArg _ hid),
            List.inj_on_of_nodup_map h.nodup_ids hother hmem hid]
        · rw [if_neg hid, if_neg fun heq ↦ hid (congrArg DeclId.mk heq)]
      rw [hplace]
    · rfl

/-- When the parent of one declaration has been looked up, the scopes of the others still are to
be. -/
theorem replace {pending : Pending} (hmem : pending.declaration ∈ builder.declarations)
    {declaration : Declaration} (hsettle : Draft.settleParent accepted pending = .ok declaration)
    (hnone : pending.declaration.parent = none) :
    Settling { builder with
      declarations := builder.declarations.map fun other ↦
        if other.id = pending.declaration.id then declaration else other } accepted where
  numbers := h.numbers
  byName := h.byName
  same := by
    rw [← h.same]
    dsimp only
    rw [List.map_map]
    refine List.map_congr_left fun other hother ↦ ?_
    rw [Function.comp_apply]
    split
    · rename_i hid
      rw [List.inj_on_of_nodup_map h.nodup_ids hother hmem hid,
        (Draft.settleParent_eq_ok hsettle hnone).1]
      rfl
    · rfl

/-- **Scopes are looked up as they are settled**, one declaration after the other. By induction on
the declarations whose scopes are left, behind those that are settled. -/
theorem settleParents {rest : List Pending} {settled : List Declaration}
    (hdeclarations : builder.declarations = settled ++ rest.map (·.declaration))
    (hnone : ∀ pending ∈ rest, pending.declaration.parent = none) :
    SettledAs (Builder.settleParents (rest.filterMap Pending.noted?) builder) builder settled
      (Draft.settleParents accepted rest) := by
  induction rest generalizing builder settled with
  | nil =>
    have heq : builder = { builder with declarations := settled ++ [] } := by
      rw [List.map_nil] at hdeclarations
      rw [← hdeclarations]
    exact congrArg (EStateM.Result.ok ()) heq
  | cons pending rest ih =>
    obtain ⟨hfirst, hrest⟩ := List.forall_mem_cons.1 hnone
    have hmem : pending.declaration ∈ builder.declarations := by simp [hdeclarations]
    rw [Draft.settleParents]
    rcases hname : pending.parentName with - | name
    · -- Without a scope nothing is noted, and the declaration stays as it is.
      have hsettled : Draft.settleParent accepted pending = .ok pending.declaration := by
        rw [Draft.settleParent, hname]
      have hnoted : (pending :: rest).filterMap Pending.noted? =
          rest.filterMap Pending.noted? := by
        rw [List.filterMap_cons_none]
        rw [Pending.noted?, hname, Option.map_none]
      rw [hsettled, hnoted]
      exact (ih h (by rw [hdeclarations, List.append_assoc]; rfl) hrest).cons
    · have hnoted : (pending :: rest).filterMap Pending.noted? =
          (pending.declaration.id, name) :: rest.filterMap Pending.noted? := by
        rw [List.filterMap_cons_some]
        rw [Pending.noted?, hname, Option.map_some]
      rw [hnoted, settleParents_cons, h.settleParent hmem hname]
      rcases hsettle : Draft.settleParent accepted pending with fault | declaration
      · exact ⟨builder, rfl⟩
      · -- The declaration is replaced where it stands, between those settled and those left.
        have hplace : (builder.declarations.map fun other ↦
            if other.id = pending.declaration.id then declaration else other) =
              (settled ++ [declaration]) ++ rest.map (·.declaration) := by
          have hnodup := h.nodup_ids
          rw [hdeclarations, List.map_cons] at hnodup
          rw [hdeclarations, List.map_cons, map_replace hnodup, List.append_assoc]
          rfl
        exact (ih (h.replace hmem hsettle hfirst) hplace hrest).cons

end Settling

/-! ### Building -/

namespace Agrees

variable {builder : Builder} {draft : Draft} (h : builder.Agrees draft)
include h

/-- A builder that agrees with a draft is ready to have its scopes looked up. -/
theorem settling :
    Settling { builder with pendingParents := [] } draft.declarations where
  numbers := h.declarations ▸ h.consistent.declaration_numbers
  byName name := by
    refine Option.ext fun id ↦ ?_
    rw [h.consistent.byName, Option.map_eq_some_iff, h.declarations]
    have hnames := h.consistent.declaration_names
    rw [h.declarations] at hnames
    refine exists_congr fun declaration ↦ ?_
    rw [find?_eq_some_of_nodup hnames, and_assoc, and_comm (a := declaration.id = id)]
  same := congrArg (List.map untied) h.declarations

theorem unsettled : ∀ pending ∈ draft.pending, pending.declaration.parent = none :=
  fun _ hmem ↦ h.consistent.unsettled _ (h.declarations ▸ List.mem_map_of_mem hmem)

/-- What a builder hands over are its collections, with the declarations that the draft settles
into, if it settles and the chains of parents end. -/
theorem build_eq : builder.build =
    match Draft.settleParents draft.declarations draft.pending with
    | .error fault => .error fault
    | .ok declarations =>
      (Draft.checkChains ⟨declarations, draft.modules⟩ [] declarations).map fun () ↦
        { builder.toIndexed with declarations } := by
  have hsettle : SettledAs _ _ [] _ := h.settling.settleParents h.declarations h.unsettled
  rw [Builder.build, h.pendingParents]
  rcases hresult : Draft.settleParents draft.declarations draft.pending with fault | declarations
  · rw [hresult, SettledAs] at hsettle
    obtain ⟨after, hafter⟩ := hsettle
    rw [hafter]
  · rw [hresult, SettledAs] at hsettle
    rw [hsettle, ← h.modules]
    rfl

/-- **A builder and a draft that agree are built into the same graph**, or refused with the same
fault. -/
theorem build : builder.build.map Indexed.graph = draft.build := by
  rw [h.build_eq, Draft.build]
  rcases Draft.settleParents draft.declarations draft.pending with fault | declarations
  · rfl
  · dsimp only
    rcases Draft.checkChains ⟨declarations, draft.modules⟩ [] declarations with fault | _
    · rfl
    · exact congrArg (fun modules ↦ Except.ok (Graph.mk declarations modules)) h.modules

/-- **The collections that are handed over agree.** -/
theorem consistent_of_build {indexed : Indexed} (hbuild : builder.build = .ok indexed) :
    indexed.Consistent := by
  rw [h.build_eq] at hbuild
  rcases hresult : Draft.settleParents draft.declarations draft.pending with fault | declarations
  · rw [hresult] at hbuild
    cases hbuild
  · have hsame : declarations.map untied = builder.declarations.map untied := by
      rw [Draft.map_settleParents hresult h.unsettled fun _ _ ↦ rfl, h.declarations]
      rfl
    have hconsistent := h.consistent.toConsistent.retied hsame
    rw [hresult] at hbuild
    dsimp only at hbuild
    rcases hcheck : Draft.checkChains ⟨declarations, draft.modules⟩ [] declarations with fault | _
    · rw [hcheck] at hbuild
      cases hbuild
    · rw [hcheck] at hbuild
      cases hbuild
      exact hconsistent

end Agrees
end Builder
end Exposure.Graph
