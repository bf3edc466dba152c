import Exposure.Proofs.Graph.Nesting
import Mathlib.Logic.Relation

/-!
# What a draft refuses

A draft answers with a fault where an addition does not fit, where a parent is no accepted name
scope, and where a chain of parents comes to a loop. The first two sections say of each fault that
an addition or a parent is refused with what is wrong with it, and that what is tested before is in
order.

By name, a declaration is **under** the name scope that is its parent (`Graph.Under`). A chain of
parents either ends or comes to a loop: what ends does not loop (`Nested.not_comesToLoop`), and what
the last check of a draft refuses does (`Draft.comesToLoop_of_ascend`). So the check passes exactly
if no chain comes to a loop (`Draft.checkChains_eq_ok_iff`), and what it refuses is the first one
that does (`Draft.of_checkChains_eq_error`).
-/

namespace Exposure.Graph

open Relation (ReflTransGen TransGen)

namespace Draft

/-! ### Additions -/

/-- A module is refused if its name is taken. -/
theorem of_addModule_eq_error {draft : Draft} {name : String} {marks : List Mark} {fault : Fault}
    (h : draft.addModule name marks = .error fault) :
    name ∈ draft.modules.map (·.name) ∧ fault = .duplicateModule name := by
  rw [addModule] at h
  split at h
  · rename_i hsome
    cases h
    exact ⟨isSome_moduleNamed.1 hsome, rfl⟩
  · cases h

/-- A target is refused if it is missing on an alias or there on anything else. -/
theorem of_checkTarget_eq_error {name : String} {kind : Kind} {target : Option String}
    {fault : Fault} (h : checkTarget name kind target = .error fault) :
    kind = .typeAlias ∧ target = none ∧ fault = .missingAliasTarget name ∨
      kind ≠ .typeAlias ∧ target.isSome ∧ fault = .unexpectedAliasTarget name := by
  unfold checkTarget at h
  split at h
  · cases h
    exact .inl ⟨rfl, rfl, rfl⟩
  · cases h
  · rename_i hkind
    cases h
    exact .inr ⟨hkind, rfl, rfl⟩
  · cases h

/-- **A declaration is refused** if its name is taken; if it is not, because its module is unknown;
if it is known, because of its target. -/
theorem of_addDeclaration_eq_error {draft : Draft} {spec : Spec} {fault : Fault}
    (h : draft.addDeclaration spec = .error fault) :
    Name.withoutGlobal spec.name ∈ draft.declarations.map (·.name) ∧
        fault = .duplicateDeclaration (Name.withoutGlobal spec.name) ∨
      Name.withoutGlobal spec.name ∉ draft.declarations.map (·.name) ∧
        (spec.module ∉ draft.modules.map (·.name) ∧
            fault = .unknownModule (Name.withoutGlobal spec.name) spec.module ∨
          spec.module ∈ draft.modules.map (·.name) ∧
            checkTarget (Name.withoutGlobal spec.name) spec.kind spec.target = .error fault) := by
  have htaken : (draft.declarations.any fun declaration ↦
      declaration.name = Name.withoutGlobal spec.name) = true ↔
        Name.withoutGlobal spec.name ∈ draft.declarations.map (·.name) := by
    simp
  -- The checks are made in turn, so each one that fails has those before it passed.
  rw [addDeclaration] at h
  dsimp only at h
  split at h
  · rename_i hany
    cases h
    exact .inl ⟨htaken.1 hany, rfl⟩
  · rename_i hany
    refine .inr ⟨fun hmem ↦ hany (htaken.2 hmem), ?_⟩
    rw [← isSome_moduleNamed]
    split at h
    · rename_i hnone
      cases h
      exact .inl ⟨by rw [hnone]; simp, rfl⟩
    · rename_i module hmodule
      refine .inr ⟨by rw [hmodule]; rfl, ?_⟩
      split at h
      · rename_i hcheck
        cases h
        exact hcheck
      · cases h

/-! ### Parents -/

/-- A parent is refused if it is not among the accepted or no name scope. -/
theorem of_settleParent_eq_error {accepted : List Declaration} {pending : Pending} {fault : Fault}
    (h : settleParent accepted pending = .error fault) :
    ∃ name, pending.parentName = some name ∧
      (name ∉ accepted.map (·.name) ∧ fault = .unknownParent pending.declaration.name name ∨
        ∃ scope ∈ accepted, scope.name = name ∧ scope.kind ≠ .scope ∧
          fault = .parentNotScope pending.declaration.name name) := by
  rw [settleParent] at h
  split at h
  · cases h
  · rename_i name hname
    refine ⟨name, hname, ?_⟩
    split at h
    · rename_i hnone
      cases h
      exact .inl ⟨by simpa using hnone, rfl⟩
    · rename_i scope hscope
      split at h
      · cases h
      · rename_i hkind
        cases h
        exact .inr ⟨scope, List.mem_of_find?_eq_some hscope, by simpa using List.find?_some hscope,
          hkind, rfl⟩

/-- Of several the first parent that does not settle is refused. -/
theorem of_settleParents_eq_error {accepted : List Declaration} {pending : List Pending}
    {fault : Fault} (h : settleParents accepted pending = .error fault) :
    ∃ before one rest, pending = before ++ one :: rest ∧
      (∀ earlier ∈ before, ∃ declaration, settleParent accepted earlier = .ok declaration) ∧
      settleParent accepted one = .error fault := by
  induction pending with
  | nil => cases h
  | cons first rest ih =>
    rw [settleParents] at h
    split at h
    · rename_i hfirst
      cases h
      exact ⟨[], first, rest, rfl, by simp, hfirst⟩
    · rename_i declaration hfirst
      rcases hrest : settleParents accepted rest with other | declarations
      · rw [hrest] at h
        cases h
        obtain ⟨before, one, others, rfl, hbefore, hone⟩ := ih hrest
        exact ⟨first :: before, one, others, rfl,
          List.forall_mem_cons.2 ⟨⟨declaration, hfirst⟩, hbefore⟩, hone⟩
      · rw [hrest] at h
        cases h

end Draft

/-! ### Chains of parents -/

/-- Following a relation from a place comes to a place that leads back to itself. -/
def ComesToLoop (under : String → String → Prop) (place : String) : Prop :=
  ∃ again, ReflTransGen under place again ∧ TransGen under again again

/-- What comes to a loop comes to it from the next place on. -/
theorem ComesToLoop.exists_next {under : String → String → Prop} {place : String}
    (h : ComesToLoop under place) : ∃ next, under place next ∧ ComesToLoop under next := by
  obtain ⟨again, hto, hround⟩ := h
  rcases hto.cases_head with rfl | ⟨next, hnext, hrest⟩
  · obtain ⟨next, hnext, hback⟩ := TransGen.head'_iff.1 hround
    exact ⟨next, hnext, next, .refl, .tail' hback hnext⟩
  · exact ⟨next, hnext, again, hrest, hround⟩

/-- One name is that of a declaration, the other that of its parent. -/
def Under (graph : Graph) (inner outer : String) : Prop :=
  ∃ declaration ∈ graph.declarations, declaration.name = inner ∧
    declaration.parent.map graph.declarationName = some outer

variable {graph : Graph} (hgraph : graph.WellFormed)
include hgraph

/-- **A chain that ends does not come to a loop**, by induction on the chain. -/
theorem Nested.not_comesToLoop {next : Option DeclId} {scopes : List Declaration}
    (h : graph.Nested next scopes) :
    ∀ id, next = some id → ¬ ComesToLoop graph.Under (graph.declarationName id) := by
  induction h with
  | top =>
    intro id hid
    cases hid
  | @inside id scope scopes found _ ih =>
    rintro _ ⟨⟩ hloop
    obtain ⟨hscope, rfl⟩ := hgraph.declaration?_eq_some.1 found
    obtain ⟨outer, ⟨declaration, hmem, hname, hparent⟩, hrest⟩ := hloop.exists_next
    rw [hgraph.declarationName_eq hscope] at hname
    -- The declaration of that name is the scope, and the chain goes on at its parent.
    obtain rfl : declaration = scope := hgraph.declaration_unique_of_name hmem hscope hname
    obtain ⟨parent, hid, rfl⟩ := Option.map_eq_some_iff.1 hparent
    exact ih parent hid hrest

namespace Draft

/-- **A walk that is refused has come to a loop.** All that the walk has met leads to where it is,
so that what is met again leads to itself. -/
theorem comesToLoop_of_ascend {settled : List DeclId} {steps : Nat} {seen : List DeclId}
    {id found : DeclId} (hid : (graph.declaration? id).isSome)
    (hseen : ∀ one ∈ seen,
      TransGen graph.Under (graph.declarationName one) (graph.declarationName id))
    (h : ascend graph settled steps seen (some id) = .error found) :
    ReflTransGen graph.Under (graph.declarationName id) (graph.declarationName found) ∧
      TransGen graph.Under (graph.declarationName found) (graph.declarationName found) := by
  induction steps generalizing seen id with
  | zero => cases h
  | succ steps ih =>
    obtain ⟨declaration, hdeclaration⟩ := Option.isSome_iff_exists.1 hid
    obtain ⟨hmem, hidEq⟩ := hgraph.declaration?_eq_some.1 hdeclaration
    rw [ascend] at h
    split at h
    · cases h
    · split at h
      · rename_i hagain
        cases h
        exact ⟨.refl, hseen _ hagain⟩
      · rw [hdeclaration, Option.bind_some] at h
        rcases hparent : declaration.parent with - | parent
        · rw [hparent] at h
          cases steps <;> cases h
        · rw [hparent] at h
          -- The walk goes on to the scope around, to which all that was met leads as well.
          obtain ⟨scope, hscope, rfl, -⟩ := hgraph.parents declaration hmem parent hparent
          have hunder : graph.Under (graph.declarationName id) (graph.declarationName scope.id) :=
            ⟨declaration, hmem, by rw [← hidEq, hgraph.declarationName_eq hmem],
              by rw [hparent]; rfl⟩
          have hfound : graph.declaration? scope.id = some scope :=
            hgraph.declaration?_eq_some.2 ⟨hscope, rfl⟩
          obtain ⟨hleads, hround⟩ := ih (by rw [hfound]; rfl)
            (List.forall_mem_cons.2 ⟨.single hunder, fun one hone ↦ (hseen one hone).tail hunder⟩) h
          exact ⟨.head hunder hleads, hround⟩

/-- **The check refuses the first declaration whose chain comes to a loop**, with a declaration on
the loop. -/
theorem of_checkChains_eq_error {settled : List DeclId}
    (hsettled : ∀ id ∈ settled, graph.Ends (some id)) {starts : List Declaration}
    (hstarts : starts ⊆ graph.declarations) {fault : Fault}
    (h : checkChains graph settled starts = .error fault) :
    ∃ before start rest again, starts = before ++ start :: rest ∧
      (∀ one ∈ before, ¬ ComesToLoop graph.Under one.name) ∧
      ReflTransGen graph.Under start.name again ∧ TransGen graph.Under again again ∧
      fault = .cyclicParent start.name again := by
  induction starts generalizing settled with
  | nil => cases h
  | cons first rest ih =>
    obtain ⟨hfirst, hrest⟩ := List.cons_subset.1 hstarts
    have hname := hgraph.declarationName_eq hfirst
    rw [checkChains] at h
    split at h
    · rename_i found hfound
      cases h
      have hid : graph.declaration? first.id = some first :=
        hgraph.declaration?_eq_some.2 ⟨hfirst, rfl⟩
      obtain ⟨hleads, hround⟩ :=
        comesToLoop_of_ascend hgraph (by rw [hid]; rfl) (by simp) hfound
      rw [hname] at hleads
      exact ⟨[], first, rest, _, rfl, by simp, hleads, hround, rfl⟩
    · rename_i seen hseen
      -- The first chain ends, so it comes to no loop, and what it settled ends as well.
      obtain ⟨⟨scopes, hscopes⟩, hnow⟩ := ends_of_ascend_start hgraph hsettled hfirst rfl hseen
      obtain ⟨before, start, others, again, rfl, hbefore, hleads, hround, rfl⟩ := ih hnow hrest h
      refine ⟨first :: before, start, others, again, rfl,
        List.forall_mem_cons.2 ⟨?_, hbefore⟩, hleads, hround, rfl⟩
      rw [← hname]
      exact hscopes.not_comesToLoop hgraph _ rfl

/-- **The check passes exactly if no chain comes to a loop.** -/
theorem checkChains_eq_ok_iff :
    checkChains graph [] graph.declarations = .ok () ↔
      ∀ declaration ∈ graph.declarations, ¬ ComesToLoop graph.Under declaration.name := by
  constructor
  · intro h declaration hmem
    obtain ⟨scopes, hscopes⟩ :=
      ends_of_checkChains hgraph (by simp) (List.Subset.refl _) h declaration hmem
    rw [← hgraph.declarationName_eq hmem]
    exact hscopes.not_comesToLoop hgraph _ rfl
  · intro hnone
    rcases hcheck : checkChains graph [] graph.declarations with fault | _
    · obtain ⟨before, start, rest, again, hsplit, -, hleads, hround, -⟩ :=
        of_checkChains_eq_error hgraph (by simp) (List.Subset.refl _) hcheck
      have hstart : start ∈ graph.declarations := by
        rw [hsplit]
        simp
      exact absurd ⟨again, hleads, hround⟩ (hnone start hstart)
    · rfl

end Draft
end Exposure.Graph
