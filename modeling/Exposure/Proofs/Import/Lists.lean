import Exposure.Import.Ledger
import Exposure.Proofs.FirstOccurrences
import Exposure.Proofs.Graph.Built

/-!
# Import lists

What the ledger comes to for one module, told from the records in it. The names a module asks
for are its `request` records (`mem_requested`) and the modules it refers to its `reference`
records, but for those to itself (`mem_referenced`).

An import list holds the modules that are asked for, each as explicit, and behind them those
that are referred to and not asked for, each as inferred from its first reference
(`of_mem_addReferences`, `exists_mem_addReferences`). So explicit imports come first, no module is
listed twice and none lists itself, and every reference to another module is met by an import.

What settling objects to in a module is told the same way (`mem_missingImports`), and so is the
warning for a module that asks for itself (`selfImports_eq`).
-/

namespace Exposure.Import.Ledger

/-! ### Records -/

theorem requested_append (ledger other : Ledger) (module : ModuleId) :
    requested (ledger ++ other) module = ledger.requested module ++ other.requested module :=
  List.filterMap_append

theorem manualBlocks_append (ledger other : Ledger) (module : ModuleId) :
    manualBlocks (ledger ++ other) module =
      ledger.manualBlocks module ++ other.manualBlocks module :=
  List.filterMap_append

theorem relocations_append (ledger other : Ledger) :
    relocations (ledger ++ other) = ledger.relocations ++ other.relocations :=
  List.filterMap_append

theorem mem_requested {ledger : Ledger} {module : ModuleId} {name : String} :
    name ∈ ledger.requested module ↔ .request module name ∈ ledger := by
  rw [requested, List.mem_filterMap]
  constructor
  · rintro ⟨record, hrecord, hname⟩
    cases record with
    | request owner target =>
      obtain ⟨rfl, h⟩ := Option.ite_none_right_eq_some.1 hname
      cases h
      exact hrecord
    | reference | manual | relocation => cases hname
  · exact fun h ↦ ⟨_, h, if_pos rfl⟩

theorem mem_referenced {ledger : Ledger} {module site : ModuleId} {via : DeclId} :
    (site, via) ∈ ledger.referenced module ↔
      .reference module site via ∈ ledger ∧ site ≠ module := by
  rw [referenced, List.mem_filterMap]
  constructor
  · rintro ⟨record, hrecord, hname⟩
    cases record with
    | reference owner emittedIn other =>
      obtain ⟨⟨rfl, hne⟩, h⟩ := Option.ite_none_right_eq_some.1 hname
      cases h
      exact ⟨hrecord, hne⟩
    | request | manual | relocation => cases hname
  · exact fun h ↦ ⟨_, h.1, if_pos ⟨rfl, h.2⟩⟩

theorem mem_manualBlocks {ledger : Ledger} {module : ModuleId} {block : ManualBlock} :
    block ∈ ledger.manualBlocks module ↔ .manual module block ∈ ledger := by
  rw [manualBlocks, List.mem_filterMap]
  constructor
  · rintro ⟨record, hrecord, hname⟩
    cases record with
    | manual owner code =>
      obtain ⟨rfl, h⟩ := Option.ite_none_right_eq_some.1 hname
      cases h
      exact hrecord
    | request | reference | relocation => cases hname
  · exact fun h ↦ ⟨_, h, if_pos rfl⟩

/-! ### References -/

/-- **What is taken up** was not listed, and it is inferred from a reference to it. -/
theorem of_mem_addReferences {listed : List ModuleId} {references : List (ModuleId × DeclId)}
    {entry : Entry} (h : entry ∈ addReferences listed references) :
    entry.module ∉ listed ∧
      ∃ via, entry.origin = .inferred via ∧ (entry.module, via) ∈ references := by
  induction references generalizing listed with
  | nil => cases h
  | cons reference rest ih =>
    obtain ⟨site, via⟩ := reference
    rw [addReferences] at h
    split at h
    · -- The reference is to a module that is listed, and adds nothing.
      obtain ⟨hnew, other, horigin, hmem⟩ := ih h
      exact ⟨hnew, other, horigin, List.mem_cons_of_mem _ hmem⟩
    · rename_i hsite
      rcases List.mem_cons.1 h with rfl | h
      · exact ⟨hsite, via, rfl, List.mem_cons_self⟩
      · obtain ⟨hnew, other, horigin, hmem⟩ := ih h
        exact ⟨fun hlisted ↦ hnew (List.mem_cons_of_mem _ hlisted), other, horigin,
          List.mem_cons_of_mem _ hmem⟩

/-- **Nothing referred to is left out**, unless it was listed. -/
theorem exists_mem_addReferences {listed : List ModuleId}
    {references : List (ModuleId × DeclId)} {site : ModuleId} {via : DeclId}
    (hmem : (site, via) ∈ references) (hnew : site ∉ listed) :
    ∃ entry ∈ addReferences listed references, entry.module = site := by
  induction references generalizing listed with
  | nil => cases hmem
  | cons reference rest ih =>
    obtain ⟨first, firstVia⟩ := reference
    rw [addReferences]
    rcases List.mem_cons.1 hmem with h | hmem
    · cases h
      rw [if_neg hnew]
      exact ⟨_, List.mem_cons_self, rfl⟩
    · split
      · exact ih hmem hnew
      · -- The first reference adds its module, which may be the one looked for already.
        by_cases hfirst : site = first
        · exact ⟨_, List.mem_cons_self, hfirst.symm⟩
        · have hstill : site ∉ first :: listed := by simp [hfirst, hnew]
          obtain ⟨entry, hentry, hsite⟩ := ih hmem hstill
          exact ⟨entry, List.mem_cons_of_mem _ hentry, hsite⟩

/-- Nothing is taken up twice. -/
theorem nodup_addReferences (listed : List ModuleId) (references : List (ModuleId × DeclId)) :
    ((addReferences listed references).map (·.module)).Nodup := by
  induction references generalizing listed with
  | nil => exact List.nodup_nil
  | cons reference rest ih =>
    obtain ⟨site, via⟩ := reference
    rw [addReferences]
    split
    · exact ih listed
    · refine List.nodup_cons.2 ⟨fun hmem ↦ ?_, ih (site :: listed)⟩
      obtain ⟨entry, hentry, hsite⟩ := List.mem_map.1 hmem
      exact (of_mem_addReferences hentry).1 (hsite ▸ List.mem_cons_self)

/-! ### The list of a module -/

section ImportList

variable {graph : Graph} {ledger : Ledger} {module : Module}

/-- A module is asked for if it is one of the run, another one, and asked for by name. -/
theorem mem_requestedModules (hgraph : graph.WellFormed) {id : ModuleId} :
    id ∈ requestedModules graph ledger module ↔
      id ≠ module.id ∧ ∃ other ∈ graph.modules, other.id = id ∧
        other.name ∈ ledger.requested module.id := by
  simp only [requestedModules, List.mem_eraseDups, List.mem_filter, List.mem_map,
    List.mem_filterMap, hgraph.moduleNamed_eq_some, decide_eq_true_iff]
  constructor
  · rintro ⟨⟨other, ⟨name, hname, hother, rfl⟩, rfl⟩, hne⟩
    exact ⟨hne, other, hother, rfl, hname⟩
  · rintro ⟨hne, other, hother, rfl, hname⟩
    exact ⟨⟨other, ⟨other.name, hname, hother, rfl⟩, rfl⟩, hne⟩

/-- An import is explicit exactly if the module is asked for. -/
theorem explicit_mem_importList {id : ModuleId} :
    ⟨id, .explicit⟩ ∈ importList graph ledger module ↔
      id ∈ requestedModules graph ledger module := by
  rw [importList, List.mem_append, List.mem_map]
  constructor
  · rintro (⟨asked, hasked, h⟩ | h)
    · cases h
      exact hasked
    · obtain ⟨-, via, horigin, -⟩ := of_mem_addReferences h
      cases horigin
  · exact fun h ↦ .inl ⟨id, h, rfl⟩

/-- An import is inferred from a reference, where the module is not asked for. -/
theorem of_inferred_mem_importList {id : ModuleId} {via : DeclId}
    (h : ⟨id, .inferred via⟩ ∈ importList graph ledger module) :
    id ∉ requestedModules graph ledger module ∧ (id, via) ∈ ledger.referenced module.id := by
  rw [importList, List.mem_append, List.mem_map] at h
  rcases h with ⟨asked, hasked, h⟩ | h
  · cases h
  · obtain ⟨hnew, other, horigin, hmem⟩ := of_mem_addReferences h
    cases horigin
    exact ⟨hnew, hmem⟩

/-- Every reference is met by an import. -/
theorem exists_mem_importList {site : ModuleId} {via : DeclId}
    (h : (site, via) ∈ ledger.referenced module.id) :
    ∃ entry ∈ importList graph ledger module, entry.module = site := by
  rw [importList]
  by_cases hasked : site ∈ requestedModules graph ledger module
  · exact ⟨_, List.mem_append_left _ (List.mem_map.2 ⟨site, hasked, rfl⟩), rfl⟩
  · obtain ⟨entry, hentry, hsite⟩ := exists_mem_addReferences h hasked
    exact ⟨entry, List.mem_append_right _ hentry, hsite⟩

/-- An import is inferred exactly if the module is referred to and not asked for. -/
theorem exists_inferred_mem_importList {id : ModuleId} :
    (∃ via, ⟨id, .inferred via⟩ ∈ importList graph ledger module) ↔
      id ∉ requestedModules graph ledger module ∧
        ∃ via, (id, via) ∈ ledger.referenced module.id := by
  constructor
  · rintro ⟨via, hlisted⟩
    obtain ⟨hunasked, hreferred⟩ := of_inferred_mem_importList hlisted
    exact ⟨hunasked, via, hreferred⟩
  · rintro ⟨hunasked, via, hreferred⟩
    obtain ⟨⟨site, - | other⟩, hlisted, rfl⟩ := exists_mem_importList hreferred
    · exact absurd (explicit_mem_importList.1 hlisted) hunasked
    · exact ⟨other, hlisted⟩

/-- No module lists itself. -/
theorem module_ne_of_mem_importList (hgraph : graph.WellFormed) {entry : Entry}
    (h : entry ∈ importList graph ledger module) : entry.module ≠ module.id := by
  rcases entry with ⟨id, - | via⟩
  · exact ((mem_requestedModules hgraph).1 (explicit_mem_importList.1 h)).1
  · exact (mem_referenced.1 (of_inferred_mem_importList h).2).2

/-- No module is listed twice. -/
theorem nodup_importList : ((importList graph ledger module).map (·.module)).Nodup := by
  have hasked : ((requestedModules graph ledger module).map
      (⟨·, .explicit⟩ : ModuleId → Entry)).map (·.module) =
        requestedModules graph ledger module := by
    rw [List.map_map]
    exact List.map_id _
  rw [importList, List.map_append, hasked]
  -- What is taken up was not asked for, so the two parts have nothing in common.
  refine List.Nodup.append (nodup_eraseDups _) (nodup_addReferences _ _) fun id hid hmem ↦ ?_
  obtain ⟨entry, hentry, rfl⟩ := List.mem_map.1 hmem
  exact (of_mem_addReferences hentry).1 hid

/-- Behind an inferred import no explicit one follows. -/
theorem pairwise_importList :
    (importList graph ledger module).Pairwise fun first second ↦
      second.origin = .explicit → first.origin = .explicit := by
  rw [importList, List.pairwise_append]
  refine ⟨?_, ?_, ?_⟩
  · refine List.pairwise_map.2 (List.pairwise_of_forall fun _ _ _ ↦ rfl)
  · refine List.Pairwise.imp_of_mem (R := fun _ _ ↦ True) (fun _ hsecond _ hexplicit ↦ ?_)
      (List.pairwise_of_forall fun _ _ ↦ trivial)
    obtain ⟨-, via, horigin, -⟩ := of_mem_addReferences hsecond
    rw [horigin] at hexplicit
    cases hexplicit
  · intro first hfirst second _ _
    obtain ⟨asked, -, rfl⟩ := List.mem_map.1 hfirst
    rfl

/-! ### Problems -/

/-- Nothing is asked for in vain exactly if the run has whatever is asked for. -/
theorem danglingImports_eq_nil :
    danglingImports graph ledger module = [] ↔
      ∀ name ∈ ledger.requested module.id, graph.containsModule name := by
  rw [danglingImports, List.map_eq_nil_iff, List.eq_nil_iff_forall_not_mem]
  simp

/-- **What is missing** is the import of another module of the run that hand-written code calls for
and that is not asked for. -/
theorem mem_missingImports {problem : Problem} :
    problem ∈ missingImports graph ledger module ↔
      ∃ called, problem = .missingImportDeclaration module.name called ∧
        (∃ block ∈ ledger.manualBlocks module.id, called ∈ block.references) ∧
        called ≠ module.name ∧ graph.containsModule called ∧
        called ∉ ledger.requested module.id := by
  rw [missingImports, List.mem_map]
  simp only [List.mem_eraseDups, List.mem_filter, List.mem_flatMap, Bool.and_eq_true,
    decide_eq_true_iff, Bool.not_eq_true', List.contains_eq_mem, decide_eq_false_iff_not]
  constructor
  · rintro ⟨called, ⟨hcalled, ⟨hother, hunasked⟩, hcontains⟩, rfl⟩
    exact ⟨called, rfl, hcalled, hother, hcontains, hunasked⟩
  · rintro ⟨called, rfl, hcalled, hother, hcontains, hunasked⟩
    exact ⟨called, ⟨hcalled, ⟨hother, hunasked⟩, hcontains⟩, rfl⟩

/-- No import is missing exactly if every other module of the run that is called for is asked
for. -/
theorem missingImports_eq_nil :
    missingImports graph ledger module = [] ↔
      ∀ block ∈ ledger.manualBlocks module.id, ∀ called ∈ block.references,
        called ≠ module.name → graph.containsModule called →
          called ∈ ledger.requested module.id := by
  rw [List.eq_nil_iff_forall_not_mem]
  constructor
  · intro h block hblock called hcalled hother hcontains
    by_contra hunasked
    exact h _ (mem_missingImports.2
      ⟨called, rfl, ⟨block, hblock, hcalled⟩, hother, hcontains, hunasked⟩)
  · intro h problem hproblem
    obtain ⟨called, rfl, ⟨block, hblock, hcalled⟩, hother, hcontains, hunasked⟩ :=
      mem_missingImports.1 hproblem
    exact hunasked (h block hblock called hcalled hother hcontains)

/-- An accusation of a missing import is made in settling the module it accuses. -/
theorem missingImportDeclaration_mem_settle {name called : String} :
    .missingImportDeclaration name called ∈ (settle graph ledger).problems ↔
      ∃ module ∈ graph.modules, module.name = name ∧
        (∃ block ∈ ledger.manualBlocks module.id, called ∈ block.references) ∧
        called ≠ module.name ∧ graph.containsModule called ∧
        called ∉ ledger.requested module.id := by
  rw [settle]
  dsimp only
  rw [List.mem_flatMap]
  refine exists_congr fun module ↦ and_congr_right fun _ ↦ ?_
  have hdangling : .missingImportDeclaration name called ∉ danglingImports graph ledger module := by
    intro h
    obtain ⟨target, -, hother⟩ := List.mem_map.1 h
    cases hother
  rw [List.mem_append, or_iff_right hdangling, mem_missingImports]
  constructor
  · rintro ⟨other, hproblem, hmissing⟩
    cases hproblem
    exact ⟨rfl, hmissing⟩
  · rintro ⟨rfl, hmissing⟩
    exact ⟨called, rfl, hmissing⟩

/-! ### Warnings -/

/-- A module is warned of as asking for itself exactly if it does. -/
theorem selfImports_eq (hgraph : graph.WellFormed) (hmodule : module ∈ graph.modules) :
    selfImports graph ledger module =
      if .request module.id module.name ∈ ledger then [.selfImport module.name] else [] := by
  have hitself : ((ledger.requested module.id).any fun target ↦
      (graph.moduleNamed target).any (·.id = module.id)) = true ↔
        .request module.id module.name ∈ ledger := by
    rw [List.any_eq_true, ← mem_requested]
    constructor
    · rintro ⟨name, hname, hfound⟩
      obtain ⟨found, hfound, hid⟩ := (Option.any_eq_true _ _).1 hfound
      obtain ⟨hmem, rfl⟩ := hgraph.moduleNamed_eq_some.1 hfound
      obtain rfl := hgraph.module_unique hmodule hmem (of_decide_eq_true hid).symm
      exact hname
    · intro hname
      refine ⟨_, hname, ?_⟩
      rw [hgraph.moduleNamed_eq_some.2 ⟨hmodule, rfl⟩, Option.any_some]
      exact decide_eq_true rfl
  rw [selfImports]
  exact if_congr hitself rfl rfl

end ImportList

end Exposure.Import.Ledger
