import Exposure.Proofs.Document.Built
import Exposure.Proofs.Graph.Renumbering

/-!
# Profiles

What a document says of a declaration is its **profile**: everything but numbers, with the parent by
name. A document settles into a graph (`Document.SettlesInto`) exactly if its records have
profiles that go together (`Document.exists_settlesInto`), and the graph has the profiles of the
records in the same order (`Document.SettlesInto.profiles`). So what comes of a document is known
from its profiles, but for the last check, which is that parent chains end
(`Document.toGraph_eq_ok_iff`).

Nothing that lets profiles go together depends on their order (`Profile.Together`).
-/

namespace Exposure

open Exposure.Graph (Draft Pending Fault Spec)

/-- **All that is known of a declaration** when its number is not. -/
structure Profile where
  name : String
  kind : Kind
  module : ModuleId
  /-- The name of the enclosing name scope. -/
  parent : Option String
  target : Option String
  marks : List Mark
  deriving DecidableEq, Repr

/-- The profile of a declaration of a graph. -/
def Graph.profile (graph : Graph) (declaration : Declaration) : Profile :=
  ⟨declaration.name, declaration.kind, declaration.module,
    declaration.parent.map graph.declarationName, declaration.target, declaration.marks⟩

/-- The profile of an accepted declaration. -/
def Graph.Pending.profile (pending : Pending) : Profile :=
  ⟨pending.declaration.name, pending.declaration.kind, pending.declaration.module,
    pending.parentName, pending.declaration.target, pending.declaration.marks⟩

/-- The profile of a record, if its kind is one and its module is known. -/
def DeclarationRecord.profile? (moduleNamed : String → Option Module)
    (record : DeclarationRecord) : Option Profile :=
  match Kind.ofText? record.kind, moduleNamed record.module with
  | some kind, some module =>
    some ⟨Name.withoutGlobal record.name, kind, module.id,
      record.parent.map Name.withoutGlobal, record.target, record.marks⟩
  | _, _ => none

/-- The declaration with a profile that is accepted under a number. -/
def Graph.Pending.ofProfile (profile : Profile) (index : Nat) : Pending :=
  ⟨⟨.ofIndex index, profile.name, profile.kind, profile.module, none, profile.target,
    profile.marks⟩, profile.parent⟩

/-- **Profiles that go together**: targets stand where they must, names are distinct, and parents
are name scopes. -/
structure Profile.Together (profiles : List Profile) : Prop where
  targets : ∀ profile ∈ profiles, profile.target.isSome = decide (profile.kind = .typeAlias)
  names : (profiles.map (·.name)).Nodup
  parents : ∀ profile ∈ profiles, ∀ name, profile.parent = some name →
    ∃ scope ∈ profiles, scope.name = name ∧ scope.kind = .scope

/-- Whether profiles go together is no matter of their order. -/
theorem Profile.Together.perm {profiles others : List Profile} (h : Together profiles)
    (hperm : profiles.Perm others) : Together others where
  targets profile hmem := h.targets profile (hperm.mem_iff.2 hmem)
  names := (hperm.map _).nodup_iff.1 h.names
  parents profile hmem name hname := by
    obtain ⟨scope, hscope, hfound⟩ := h.parents profile (hperm.mem_iff.2 hmem) name hname
    exact ⟨scope, hperm.mem_iff.1 hscope, hfound⟩

namespace Document

/-! ### Adding -/

/-- Adding modules accepts no declaration. -/
theorem pending_of_addModules {draft next : Draft} {records : List ModuleRecord}
    (h : addModules draft records = .ok next) : next.pending = draft.pending := by
  induction records generalizing draft with
  | nil =>
    cases h
    rfl
  | cons record rest ih =>
    rw [addModules] at h
    split at h
    · cases h
    · rename_i added id haccepted
      obtain ⟨-, rfl⟩ := Draft.addModule_eq_ok haccepted
      exact (ih h).trans rfl

/-- **A record is added exactly if it has a profile**, its target stands where it must and its name
is new; it is accepted with this profile. -/
theorem addDeclarations_cons_eq_ok {draft next : Draft} {record : DeclarationRecord}
    {rest : List DeclarationRecord} :
    addDeclarations draft (record :: rest) = .ok next ↔
      ∃ profile, record.profile? draft.moduleNamed = some profile ∧
        profile.target.isSome = decide (profile.kind = .typeAlias) ∧
        (∀ pending ∈ draft.pending, pending.profile.name ≠ profile.name) ∧
        addDeclarations ⟨draft.modules, draft.pending ++ [.ofProfile profile draft.pending.length]⟩
          rest = .ok next := by
  rw [addDeclarations, DeclarationRecord.profile?]
  rcases Kind.ofText? record.kind with - | kind
  · simp
  · dsimp only
    -- The profiles of what is pending have the names of what is declared.
    have hnames (name : String) : (∀ declaration ∈ draft.declarations, declaration.name ≠ name) ↔
        ∀ pending ∈ draft.pending, pending.profile.name ≠ name := by
      simp [Draft.declarations, Pending.profile]
    constructor
    · intro h
      split at h
      · cases h
      · rename_i hadd
        obtain ⟨hnew, htarget, module, hmodule, -, rfl⟩ := Draft.addDeclaration_eq_ok_iff.1 hadd
        rw [hmodule]
        exact ⟨_, rfl, htarget, (hnames _).1 hnew, h⟩
    · rintro ⟨profile, hprofile, htarget, hnew, h⟩
      rcases hmodule : draft.moduleNamed record.module with - | module
      · rw [hmodule] at hprofile
        cases hprofile
      · rw [hmodule] at hprofile
        cases hprofile
        have hadd : draft.addDeclaration ⟨record.name, kind, record.module, record.parent,
            record.target, record.marks⟩ = .ok _ :=
          Draft.addDeclaration_eq_ok_iff.2
            ⟨(hnames _).2 hnew, htarget, module, hmodule, rfl, rfl⟩
        rw [hadd]
        exact h

/-- Profiles with their numbers, from a first number on. -/
def numbered (first : Nat) (profiles : List Profile) : List Pending :=
  (profiles.zipIdx first).map fun (profile, index) ↦ .ofProfile profile index

theorem map_profile_numbered (first : Nat) (profiles : List Profile) :
    (numbered first profiles).map (·.profile) = profiles := by
  rw [numbered, List.map_map]
  exact List.zipIdx_map_fst first profiles

/-- **What comes of adding records**: each has a profile, and the profiles are numbered on. -/
theorem addDeclarations_eq_ok {draft next : Draft} {records : List DeclarationRecord} :
    addDeclarations draft records = .ok next ↔
      ∃ profiles : List Profile, records.map (·.profile? draft.moduleNamed) = profiles.map some ∧
        (∀ profile ∈ profiles, profile.target.isSome = decide (profile.kind = .typeAlias)) ∧
        (profiles.map (·.name)).Nodup ∧
        (∀ profile ∈ profiles, ∀ pending ∈ draft.pending, pending.profile.name ≠ profile.name) ∧
        next = ⟨draft.modules, draft.pending ++ numbered draft.pending.length profiles⟩ := by
  induction records generalizing draft with
  | nil =>
    constructor
    · intro h
      cases h
      exact ⟨[], rfl, by simp, List.nodup_nil, by simp, by simp [numbered]⟩
    · rintro ⟨profiles, hprofiles, -, -, -, rfl⟩
      obtain rfl : profiles = [] := by simpa using hprofiles.symm
      simp [addDeclarations, numbered]
  | cons record rest ih =>
    rw [addDeclarations_cons_eq_ok]
    constructor
    · rintro ⟨profile, hprofile, htarget, hnew, hrest⟩
      obtain ⟨profiles, hprofiles, htargets, hnames, hnews, rfl⟩ := ih.1 hrest
      refine ⟨profile :: profiles, ?_, List.forall_mem_cons.2 ⟨htarget, htargets⟩, ?_, ?_, ?_⟩
      · rw [List.map_cons, List.map_cons, hprofile]
        exact congrArg _ hprofiles
      · -- What the first record adds is pending for the rest, so no later name is the same.
        refine List.nodup_cons.2 ⟨fun hmem ↦ ?_, hnames⟩
        obtain ⟨other, hother, hname⟩ := List.mem_map.1 hmem
        exact hnews other hother (.ofProfile profile draft.pending.length)
          (List.mem_append_right _ (List.mem_singleton_self _)) hname.symm
      · refine List.forall_mem_cons.2 ⟨hnew, fun other hother pending hpending ↦ ?_⟩
        exact hnews other hother pending (List.mem_append_left _ hpending)
      · simp [numbered, List.zipIdx_cons]
    · rintro ⟨profiles, hprofiles, htargets, hnames, hnews, rfl⟩
      rcases profiles with - | ⟨profile, profiles⟩
      · cases hprofiles
      · obtain ⟨hprofile, hprofiles⟩ := List.cons.inj hprofiles
        obtain ⟨htarget, htargets⟩ := List.forall_mem_cons.1 htargets
        obtain ⟨hname, hnames⟩ := List.nodup_cons.1 hnames
        obtain ⟨hnew, hnews⟩ := List.forall_mem_cons.1 hnews
        refine ⟨profile, hprofile, htarget, hnew, ih.2
          ⟨profiles, hprofiles, htargets, hnames, fun other hother pending hpending ↦ ?_, ?_⟩⟩
        · rcases List.mem_append.1 hpending with hpending | hpending
          · exact hnews other hother pending hpending
          · rw [List.mem_singleton.1 hpending]
            exact fun heq ↦ hname (List.mem_map.2 ⟨other, hother, heq.symm⟩)
        · simp [numbered, List.zipIdx_cons]

/-! ### Settling -/

/-- **A document settles into a graph** when all is done but the last check. -/
def SettlesInto (document : Document) (graph : Graph) : Prop :=
  ∃ start draft, addModules .empty document.modules = .ok start ∧
    addDeclarations start document.declarations = .ok draft ∧
      Draft.settleParents draft.declarations draft.pending = .ok graph.declarations ∧
        graph.modules = draft.modules

/-- **The graph of a document** is what it settles into, if parent chains end. -/
theorem toGraph_eq_ok_iff {document : Document} {graph : Graph} :
    document.toGraph = .ok graph ↔ document.SettlesInto graph ∧
      Draft.checkChains graph [] graph.declarations = .ok () := by
  constructor
  · intro h
    rw [toGraph_eq] at h
    split at h
    · cases h
    · rename_i start hstart
      split at h
      · cases h
      · rename_i draft hdraft
        obtain ⟨hmodules, hsettled, hcheck⟩ := Draft.build_eq_ok h
        exact ⟨⟨start, draft, hstart, hdraft, hsettled, hmodules⟩, hcheck⟩
  · rintro ⟨⟨start, draft, hstart, hdraft, hsettled, hmodules⟩, hcheck⟩
    rw [toGraph_eq, hstart]
    dsimp only
    rw [hdraft]
    dsimp only
    rw [Draft.build, hsettled]
    dsimp only
    rw [← hmodules]
    rw [show (⟨graph.declarations, graph.modules⟩ : Graph) = graph from rfl, hcheck]
    rfl

namespace SettlesInto

variable {document : Document} {graph : Graph}

/-- What a document settles into is well formed. -/
theorem wellFormed (h : document.SettlesInto graph) : graph.WellFormed := by
  obtain ⟨start, draft, hstart, hdraft, hsettled, hmodules⟩ := h
  have hreached := reached_of_addDeclarations (reached_of_addModules .empty hstart) hdraft
  exact hreached.sound.wellFormed hmodules hsettled

/-- The name that goes with the identity of an accepted declaration. -/
theorem declarationName_eq {draft : Draft} (hgraph : graph.WellFormed)
    (hnone : ∀ one ∈ draft.pending, one.declaration.parent = none)
    (hsettled : Draft.settleParents draft.declarations draft.pending = .ok graph.declarations)
    {accepted : Declaration} (hmem : accepted ∈ draft.declarations) :
    graph.declarationName accepted.id = accepted.name := by
  have hpair : (accepted.id, accepted.name) ∈ graph.declarations.map fun d ↦ (d.id, d.name) := by
    rw [Draft.map_settleParents hsettled hnone fun _ _ ↦ rfl]
    exact List.mem_map_of_mem hmem
  obtain ⟨settled, hdeclared, heq⟩ := List.mem_map.1 hpair
  obtain ⟨hid, hname⟩ := Prod.mk.inj heq
  rw [← hid, hgraph.declarationName_eq hdeclared, hname]

/-- Settling a parent leaves the profile as it is. -/
theorem profile_eq {draft : Draft} (hgraph : graph.WellFormed)
    (hnone : ∀ one ∈ draft.pending, one.declaration.parent = none)
    (hsettled : Draft.settleParents draft.declarations draft.pending = .ok graph.declarations)
    {pending : Pending} (hmem : pending ∈ draft.pending) {declaration : Declaration}
    (h : Draft.settleParent draft.declarations pending = .ok declaration) :
    graph.profile declaration = pending.profile := by
  rw [Draft.settleParent] at h
  rcases hparent : pending.parentName with - | name
  · rw [hparent] at h
    cases h
    rw [Graph.profile, Pending.profile, hnone pending hmem, hparent]
    rfl
  · rw [hparent] at h
    dsimp only at h
    split at h
    · cases h
    · rename_i parent hfound
      split at h
      · cases h
        have hname : parent.name = name := by simpa using List.find?_some hfound
        have hsame := declarationName_eq hgraph hnone hsettled (List.mem_of_find?_eq_some hfound)
        rw [Graph.profile, Pending.profile, hparent, Option.map_some, hsame, hname]
      · cases h

/-- **A graph has the profiles of the records**, in the same order. -/
theorem profiles (h : document.SettlesInto graph) :
    document.declarations.map (·.profile? graph.moduleNamed) =
      (graph.declarations.map graph.profile).map some := by
  have hgraph := h.wellFormed
  obtain ⟨start, draft, hstart, hdraft, hsettled, hmodules⟩ := h
  have hreached := reached_of_addDeclarations (reached_of_addModules .empty hstart) hdraft
  have hnone : ∀ one ∈ draft.pending, one.declaration.parent = none := fun one hone ↦
    hreached.sound.unsettled _ (List.mem_map_of_mem hone)
  obtain ⟨profiles, hprofiles, -, -, -, rfl⟩ := addDeclarations_eq_ok.1 hdraft
  have hsame : graph.moduleNamed = start.moduleNamed := by
    funext name
    rw [Graph.moduleNamed, Draft.moduleNamed, hmodules]
  rw [hsame, hprofiles]
  congr 1
  have hpending : start.pending = [] := pending_of_addModules hstart
  have hmap := Draft.map_of_settleParents hsettled fun one hone declaration hone' ↦
    profile_eq hgraph hnone hsettled hone hone'
  rw [hmap, hpending, List.nil_append, map_profile_numbered]

/-- **The profiles of a graph go together.** -/
theorem together (h : document.SettlesInto graph) :
    Profile.Together (graph.declarations.map graph.profile) where
  targets := by
    have hgraph := h.wellFormed
    rintro profile hprofile
    obtain ⟨declaration, hmem, rfl⟩ := List.mem_map.1 hprofile
    exact hgraph.targets declaration hmem
  names := by
    rw [List.map_map]
    exact h.wellFormed.declaration_names
  parents := by
    have hgraph := h.wellFormed
    intro profile hprofile name hname
    obtain ⟨declaration, hmem, rfl⟩ := List.mem_map.1 hprofile
    obtain ⟨id, hid, rfl⟩ := Option.map_eq_some_iff.1 hname
    obtain ⟨scope, hscope, rfl, hkind⟩ := hgraph.parents declaration hmem id hid
    exact ⟨graph.profile scope, List.mem_map_of_mem hscope,
      (hgraph.declarationName_eq hscope).symm, hkind⟩

end SettlesInto

/-- **A document settles if its profiles go together.** -/
theorem exists_settlesInto {document : Document} {start : Draft}
    (hstart : addModules .empty document.modules = .ok start) {profiles : List Profile}
    (hprofiles : document.declarations.map (·.profile? start.moduleNamed) = profiles.map some)
    (h : Profile.Together profiles) :
    ∃ graph, document.SettlesInto graph ∧ graph.modules = start.modules := by
  have hpending : start.pending = [] := pending_of_addModules hstart
  have hdraft := addDeclarations_eq_ok.2
    ⟨profiles, hprofiles, h.targets, h.names, by simp [hpending], rfl⟩
  rw [hpending, List.nil_append] at hdraft
  have hprofile : (numbered 0 profiles).map (·.profile) = profiles := map_profile_numbered _ _
  have hnames : ((numbered 0 profiles).map (·.declaration)).map (·.name) =
      profiles.map (·.name) := by
    have hmap := congrArg (List.map (·.name)) hprofile
    rw [List.map_map] at hmap ⊢
    exact hmap
  have hsettle : ∀ pending ∈ numbered 0 profiles, ∃ declaration,
      Draft.settleParent ((numbered 0 profiles).map (·.declaration)) pending =
        .ok declaration := by
    intro pending hmem
    refine (Draft.exists_settleParent_eq_ok (hnames ▸ h.names)).2 fun name hname ↦ ?_
    have hmem := List.mem_map_of_mem (f := (·.profile)) hmem
    rw [hprofile] at hmem
    obtain ⟨scope, hscope, hscopeName, hkind⟩ := h.parents _ hmem name hname
    rw [← hprofile] at hscope
    obtain ⟨other, hother, rfl⟩ := List.mem_map.1 hscope
    exact ⟨_, List.mem_map_of_mem hother, hscopeName, hkind⟩
  obtain ⟨declarations, hdeclarations⟩ := Draft.exists_settleParents_eq_ok.2 hsettle
  exact ⟨⟨declarations, start.modules⟩, ⟨start, _, hstart, hdraft, hdeclarations, rfl⟩, rfl⟩

end Document
end Exposure
