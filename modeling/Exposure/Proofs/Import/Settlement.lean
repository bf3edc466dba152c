import Exposure.Proofs.Document.Built
import Exposure.Proofs.Import.Lists

/-!
# Settling a ledger

`Ledger.settle` goes through a ledger many times, once for each kind of record of each module. Here
its result is told from the ledger as it stands, by which records are in it and which of two comes
first, for every ledger and whether or not a plan would write it (`Ledger.settle_exact`).

An entry of an import list answers a record (`Entry.record`): an explicit one the first request for
its module, an inferred one the first reference to it. `Listing` says which records are answered and
that answers stand in the order of the records, requests before references. That leaves one list for
each module (`Listing.eq`), and it is the one that settling comes to (`listing_importList`). The
problems are the `Objection`s that the records allow, each once.

Whatever settling says of a module hangs on three **strands** of the ledger, the requests, the
references and the hand-written code of that module (`settle_eq_of_agreesOn`). How records of
different strands are shuffled does not matter.
-/

namespace Exposure.Import

/-! ### Listings -/

/-- The record that an entry of a module's list answers. -/
def Entry.record (graph : Graph) (module : Module) (entry : Entry) : Record :=
  match entry.origin with
  | .explicit => .request module.id (graph.moduleName entry.module)
  | .inferred via => .reference module.id entry.module via

/-- An entry stands before another: requests are answered before references, and records of one kind
in the order of writing. -/
def Entry.Before (graph : Graph) (ledger : Ledger) (module : Module) (first second : Entry) :
    Prop :=
  match first.origin, second.origin with
  | .explicit, .inferred _ => True
  | .inferred _, .explicit => False
  | _, _ => ledger.idxOf (first.record graph module) < ledger.idxOf (second.record graph module)

/-- **What the import list of a module is to hold, and in which order.** -/
structure Listing (graph : Graph) (ledger : Ledger) (module : Module) (imports : List Entry) :
    Prop where
  /-- Explicit are the other modules of the run that are asked for by name. -/
  explicit : ∀ id, ⟨id, .explicit⟩ ∈ imports ↔ ∃ other ∈ graph.modules,
    other.id = id ∧ other ≠ module ∧ .request module.id other.name ∈ ledger
  /-- Inferred are the other modules that are referred to and not explicit, from the alias of the
  first reference. -/
  inferred : ∀ id via, ⟨id, .inferred via⟩ ∈ imports ↔
    id ≠ module.id ∧ ⟨id, .explicit⟩ ∉ imports ∧ .reference module.id id via ∈ ledger ∧
      ∀ other, .reference module.id id other ∈ ledger →
        ledger.idxOf (.reference module.id id via) ≤ ledger.idxOf (.reference module.id id other)
  /-- No module is listed twice. -/
  once : (imports.map (·.module)).Nodup
  order : imports.Pairwise (Entry.Before graph ledger module)

variable {graph : Graph} {ledger : Ledger} {module : Module}

/-- Of two entries only one stands before the other. -/
theorem Entry.Before.asymm {first second : Entry} (h : first.Before graph ledger module second) :
    ¬ second.Before graph ledger module first := by
  rcases first with ⟨a, - | via⟩ <;> rcases second with ⟨b, - | other⟩
  · exact Nat.lt_asymm h
  · exact id
  · exact absurd h id
  · exact Nat.lt_asymm h

/-- **A module has one listing only.** -/
theorem Listing.eq {imports others : List Entry} (h : Listing graph ledger module imports)
    (hothers : Listing graph ledger module others) : imports = others := by
  have hexplicit (id : ModuleId) : ⟨id, .explicit⟩ ∈ imports ↔ ⟨id, .explicit⟩ ∈ others :=
    (h.explicit id).trans (hothers.explicit id).symm
  have hmem (entry : Entry) : entry ∈ imports ↔ entry ∈ others := by
    rcases entry with ⟨id, - | via⟩
    · exact hexplicit id
    · rw [h.inferred, hothers.inferred, hexplicit]
  have hperm : imports.Perm others :=
    (List.perm_ext_iff_of_nodup (List.Nodup.of_map _ h.once) (List.Nodup.of_map _ hothers.once)).2
      hmem
  exact hperm.eq_of_pairwise (fun _ _ _ _ hbefore hafter ↦ absurd hafter hbefore.asymm) h.order
    hothers.order

namespace Ledger

/-! ### The order of the requests -/

/-- The module of the run, other than the one that asks, for which a record asks. -/
def askedFor (graph : Graph) (module : Module) : Record → Option ModuleId
  | .request owner target =>
    if owner = module.id then
      ((graph.moduleNamed target).map (·.id)).filter (· ≠ module.id)
    else none
  | _ => none

theorem requestedModules_eq (graph : Graph) (ledger : Ledger) (module : Module) :
    requestedModules graph ledger module =
      (ledger.filterMap (askedFor graph module)).eraseDups := by
  rw [requestedModules, requested, List.filterMap_filterMap, List.map_filterMap,
    List.filter_filterMap]
  congr 2
  funext record
  cases record with
  | request owner target =>
    by_cases howner : owner = module.id
    · simp [askedFor, howner]
    · simp [askedFor, howner]
  | reference | manual | relocation => rfl

/-- What asks for a module is the request of its name. -/
theorem askedFor_eq_some (hgraph : graph.WellFormed) {id : ModuleId} {record : Record}
    (hasked : id ∈ requestedModules graph ledger module) :
    askedFor graph module record = some id ↔
      record = .request module.id (graph.moduleName id) := by
  obtain ⟨hne, other, hother, rfl, -⟩ := (mem_requestedModules hgraph).1 hasked
  rw [hgraph.moduleName_eq hother]
  constructor
  · intro h
    cases record with
    | request owner target =>
      obtain ⟨rfl, hkept⟩ := Option.ite_none_right_eq_some.1 h
      obtain ⟨found, hfound, hid⟩ :=
        Option.map_eq_some_iff.1 (Option.filter_eq_some_iff.1 hkept).1
      obtain ⟨hmem, rfl⟩ := hgraph.moduleNamed_eq_some.1 hfound
      rw [hgraph.module_unique hmem hother hid]
    | reference | manual | relocation => cases h
  · rintro rfl
    rw [askedFor, if_pos rfl, hgraph.moduleNamed_eq_some.2 ⟨hother, rfl⟩]
    exact Option.filter_eq_some_iff.2 ⟨rfl, decide_eq_true hne⟩

/-- Modules are asked for in the order of the first requests for them. -/
theorem pairwise_requestedModules (hgraph : graph.WellFormed) :
    (requestedModules graph ledger module).Pairwise fun a b ↦
      ledger.idxOf (.request module.id (graph.moduleName a)) <
        ledger.idxOf (.request module.id (graph.moduleName b)) := by
  have hpairs := pairwise_eraseDups_filterMap (askedFor graph module) ledger
  rw [← requestedModules_eq] at hpairs
  have hposition {id : ModuleId} (hasked : id ∈ requestedModules graph ledger module) :
      ledger.findIdx (fun record ↦ askedFor graph module record = some id) =
        ledger.idxOf (.request module.id (graph.moduleName id)) := by
    rw [List.idxOf]
    congr 1
    funext record
    rw [Bool.eq_iff_iff, decide_eq_true_iff, beq_iff_eq, askedFor_eq_some hgraph hasked]
  exact hpairs.imp_of_mem fun {a b} ha hb hlt ↦ by rwa [hposition ha, hposition hb] at hlt

/-! ### The order of the references -/

/-- At the end a reference is taken up exactly if its module is new. -/
theorem addReferences_concat (listed : List ModuleId) (references : List (ModuleId × DeclId))
    (site : ModuleId) (via : DeclId) :
    addReferences listed (references ++ [(site, via)]) =
      if site ∈ listed ∨ site ∈ references.map (·.1) then addReferences listed references
      else addReferences listed references ++ [⟨site, .inferred via⟩] := by
  induction references generalizing listed with
  | nil => simp [addReferences]
  | cons reference rest ih =>
    obtain ⟨first, firstVia⟩ := reference
    rw [List.cons_append, addReferences, addReferences, ih, ih]
    by_cases hfirst : first ∈ listed
    · -- A module that is listed is new nowhere.
      have hsame : site ∈ listed ∨ site ∈ rest.map (·.1) ↔
          site ∈ listed ∨ site ∈ ((first, firstVia) :: rest).map (·.1) := by
        rw [List.map_cons, List.mem_cons]
        constructor
        · exact Or.imp_right .inr
        · rintro (h | rfl | h)
          · exact .inl h
          · exact .inl hfirst
          · exact .inr h
      rw [if_pos hfirst, if_pos hfirst, if_congr hsame rfl rfl]
    · have hsame : site ∈ first :: listed ∨ site ∈ rest.map (·.1) ↔
          site ∈ listed ∨ site ∈ ((first, firstVia) :: rest).map (·.1) := by
        rw [List.map_cons, List.mem_cons, List.mem_cons, or_assoc, or_left_comm]
      rw [if_neg hfirst, if_neg hfirst, if_congr hsame rfl rfl]
      split <;> rfl

/-- **What one more record adds** to the references that are taken up is nothing, or an entry for
the first reference to a module. -/
theorem addReferences_referenced_concat (listed : List ModuleId) (ledger : Ledger)
    (module : ModuleId) (record : Record) :
    addReferences listed (referenced (ledger ++ [record]) module) =
        addReferences listed (ledger.referenced module) ∨
      ∃ site via, record = .reference module site via ∧
        (∀ other, .reference module site other ∉ ledger) ∧
        addReferences listed (referenced (ledger ++ [record]) module) =
          addReferences listed (ledger.referenced module) ++ [⟨site, .inferred via⟩] := by
  have happend : referenced (ledger ++ [record]) module =
      ledger.referenced module ++ referenced [record] module := List.filterMap_append
  rw [happend]
  cases record with
  | reference owner site via =>
    by_cases hcounts : owner = module ∧ site ≠ module
    · have hone : referenced [.reference owner site via] module = [(site, via)] := by
        simp [referenced, hcounts]
      rw [hone, addReferences_concat]
      split
      · exact .inl rfl
      · rename_i hnew
        refine .inr ⟨site, via, by rw [hcounts.1], fun other hother ↦ hnew (.inr ?_), rfl⟩
        exact List.mem_map.2 ⟨(site, other), mem_referenced.2 ⟨hother, hcounts.2⟩, rfl⟩
    · have hnone : referenced [.reference owner site via] module = [] := by
        simp [referenced, hcounts]
      rw [hnone, List.append_nil]
      exact .inl rfl
  | request | manual | relocation => exact .inl (congrArg _ (List.append_nil _))

/-- What is taken up answers a record. -/
theorem record_mem_of_mem_addReferences {listed : List ModuleId} {entry : Entry}
    (h : entry ∈ addReferences listed (ledger.referenced module.id)) :
    entry.record graph module ∈ ledger := by
  obtain ⟨-, via, horigin, hmem⟩ := of_mem_addReferences h
  rw [Entry.record, horigin]
  exact (mem_referenced.1 hmem).1

/-- References are taken up in the order of their records. -/
theorem pairwise_addReferences (graph : Graph) (ledger : Ledger) (module : Module)
    (listed : List ModuleId) :
    (addReferences listed (ledger.referenced module.id)).Pairwise fun first second ↦
      ledger.idxOf (first.record graph module) < ledger.idxOf (second.record graph module) := by
  induction ledger using List.reverseRecOn with
  | nil => exact .nil
  | append_singleton ledger record ih =>
    -- One more record at the end does not move those there were.
    have hpairs : (addReferences listed (referenced ledger module.id)).Pairwise
        fun first second ↦ (ledger ++ [record]).idxOf (first.record graph module) <
          (ledger ++ [record]).idxOf (second.record graph module) := by
      refine ih.imp_of_mem fun {first second} hfirst hsecond hlt ↦ ?_
      rwa [List.idxOf_append_of_mem (record_mem_of_mem_addReferences hfirst),
        List.idxOf_append_of_mem (record_mem_of_mem_addReferences hsecond)]
    rcases addReferences_referenced_concat listed ledger module.id record with
      hsame | ⟨site, via, rfl, hnew, hadded⟩
    · rw [hsame]
      exact hpairs
    · rw [hadded]
      refine List.pairwise_append.2
        ⟨hpairs, List.pairwise_singleton _ _, fun first hfirst second hsecond ↦ ?_⟩
      obtain rfl := List.mem_singleton.1 hsecond
      exact idxOf_append_lt (record_mem_of_mem_addReferences hfirst) (hnew via)

/-- A reference that is taken up is the first one to its module. -/
theorem idxOf_le_of_mem_addReferences (graph : Graph) {listed : List ModuleId} {entry : Entry}
    {via : DeclId}
    (h : entry ∈ addReferences listed (ledger.referenced module.id))
    (hvia : .reference module.id entry.module via ∈ ledger) :
    ledger.idxOf (entry.record graph module) ≤
      ledger.idxOf (.reference module.id entry.module via) := by
  induction ledger using List.reverseRecOn with
  | nil => cases hvia
  | append_singleton ledger record ih =>
    -- What was taken up before is older than a reference at the end.
    have hold (h : entry ∈ addReferences listed (referenced ledger module.id)) :
        (ledger ++ [record]).idxOf (entry.record graph module) ≤
          (ledger ++ [record]).idxOf (.reference module.id entry.module via) := by
      have hmem : entry.record graph module ∈ ledger := record_mem_of_mem_addReferences h
      by_cases hbefore : .reference module.id entry.module via ∈ ledger
      · rw [List.idxOf_append_of_mem hmem, List.idxOf_append_of_mem hbefore]
        exact ih h hbefore
      · exact Nat.le_of_lt (idxOf_append_lt hmem hbefore)
    rcases addReferences_referenced_concat listed ledger module.id record with
      hsame | ⟨site, last, rfl, hnew, hadded⟩
    · rw [hsame] at h
      exact hold h
    · rw [hadded, List.mem_append] at h
      rcases h with h | h
      · exact hold h
      · obtain rfl := List.mem_singleton.1 h
        rcases List.mem_append.1 hvia with hvia | hvia
        · exact absurd hvia (hnew via)
        · rw [List.mem_singleton.1 hvia]
          exact Nat.le_refl _

/-! ### The list of a module -/

/-- **What settling lists for a module is its listing.** -/
theorem listing_importList (hgraph : graph.WellFormed) (hmodule : module ∈ graph.modules) :
    Listing graph ledger module (importList graph ledger module) where
  explicit id := by
    rw [explicit_mem_importList, mem_requestedModules hgraph]
    constructor
    · rintro ⟨hne, other, hother, rfl, hname⟩
      exact ⟨other, hother, rfl, fun h ↦ hne (by rw [h]), mem_requested.1 hname⟩
    · rintro ⟨other, hother, rfl, hne, hname⟩
      exact ⟨fun hid ↦ hne (hgraph.module_unique hother hmodule hid), other, hother, rfl,
        mem_requested.2 hname⟩
  inferred id via := by
    -- An inferred entry is one of those taken up.
    have htaken {via : DeclId} (h : ⟨id, .inferred via⟩ ∈ importList graph ledger module) :
        ⟨id, .inferred via⟩ ∈ addReferences (requestedModules graph ledger module)
          (ledger.referenced module.id) := by
      rw [importList, List.mem_append] at h
      refine h.resolve_left fun hexplicit ↦ ?_
      obtain ⟨asked, -, hentry⟩ := List.mem_map.1 hexplicit
      cases hentry
    rw [explicit_mem_importList]
    constructor
    · intro h
      obtain ⟨hunasked, hreferred⟩ := of_inferred_mem_importList h
      obtain ⟨hmem, hne⟩ := mem_referenced.1 hreferred
      exact ⟨hne, hunasked, hmem, fun other hother ↦
        idxOf_le_of_mem_addReferences graph (htaken h) hother⟩
    · rintro ⟨hne, hunasked, hmem, hfirst⟩
      obtain ⟨⟨site, - | other⟩, hlisted, rfl⟩ :=
        exists_mem_importList (mem_referenced.2 ⟨hmem, hne⟩)
      · exact absurd (explicit_mem_importList.1 hlisted) hunasked
      · -- Neither alias has the earlier reference, so they are the same.
        have hother : .reference module.id site other ∈ ledger :=
          (mem_referenced.1 (of_inferred_mem_importList hlisted).2).1
        have hsame := Nat.le_antisymm (hfirst other hother)
          (idxOf_le_of_mem_addReferences graph (htaken hlisted) hmem)
        cases (List.idxOf_inj hmem).1 hsame
        exact hlisted
  once := nodup_importList
  order := by
    rw [importList, List.pairwise_append]
    refine ⟨List.pairwise_map.2 (pairwise_requestedModules hgraph), ?_, ?_⟩
    · refine (pairwise_addReferences graph ledger module _).imp_of_mem
        fun {first second} hfirst hsecond hlt ↦ ?_
      obtain ⟨-, via, horigin, -⟩ := of_mem_addReferences hfirst
      obtain ⟨-, other, hother, -⟩ := of_mem_addReferences hsecond
      rw [Entry.Before, horigin, hother]
      exact hlt
    · intro first hfirst second hsecond
      obtain ⟨asked, -, rfl⟩ := List.mem_map.1 hfirst
      obtain ⟨-, via, horigin, -⟩ := of_mem_addReferences hsecond
      rw [Entry.Before, horigin]
      trivial

/-! ### Problems and warnings -/

/-- **What the records of a run give reason to object to.** -/
inductive Objection (graph : Graph) (ledger : Ledger) : Problem → Prop
  /-- A module asks for one that the run does not have. -/
  | dangling {module : Module} {target : String} (hmodule : module ∈ graph.modules)
      (hasked : .request module.id target ∈ ledger)
      (hnone : ∀ other ∈ graph.modules, other.name ≠ target) :
      Objection graph ledger (.danglingImport module.name target)
  /-- Hand-written code of a module calls for another one of the run, which its module does not ask
  for. -/
  | missing {module other : Module} {block : ManualBlock} (hmodule : module ∈ graph.modules)
      (hother : other ∈ graph.modules) (hne : other ≠ module)
      (hblock : .manual module.id block ∈ ledger) (hcalled : other.name ∈ block.references)
      (hunasked : .request module.id other.name ∉ ledger) :
      Objection graph ledger (.missingImportDeclaration module.name other.name)

theorem mem_danglingImports (hgraph : graph.WellFormed) {problem : Problem} :
    problem ∈ danglingImports graph ledger module ↔
      ∃ target, problem = .danglingImport module.name target ∧
        .request module.id target ∈ ledger ∧ ∀ other ∈ graph.modules, other.name ≠ target := by
  rw [danglingImports, List.mem_map]
  refine exists_congr fun target ↦ ?_
  rw [List.mem_eraseDups, List.mem_filter, mem_requested, Bool.not_eq_true', Bool.eq_false_iff,
    ne_eq, hgraph.containsModule_iff, and_comm, eq_comm]
  simp only [not_exists, not_and, ne_eq]

/-- **The problems of a ledger are what there is reason to object to.** -/
theorem mem_problems_settle (hgraph : graph.WellFormed) {problem : Problem} :
    problem ∈ (settle graph ledger).problems ↔ Objection graph ledger problem := by
  rw [settle, List.mem_flatMap]
  constructor
  · rintro ⟨module, hmodule, hproblem⟩
    rcases List.mem_append.1 hproblem with hproblem | hproblem
    · obtain ⟨target, rfl, hasked, hnone⟩ := (mem_danglingImports hgraph).1 hproblem
      exact .dangling hmodule hasked hnone
    · obtain ⟨called, rfl, ⟨block, hblock, hcalled⟩, hne, hcontains, hunasked⟩ :=
        mem_missingImports.1 hproblem
      obtain ⟨other, hother, rfl⟩ := hgraph.containsModule_iff.1 hcontains
      exact .missing hmodule hother (fun h ↦ hne (by rw [h])) (mem_manualBlocks.1 hblock) hcalled
        (mt mem_requested.2 hunasked)
  · rintro (⟨hmodule, hasked, hnone⟩ | ⟨hmodule, hother, hne, hblock, hcalled, hunasked⟩)
    · exact ⟨_, hmodule, List.mem_append_left _
        ((mem_danglingImports hgraph).2 ⟨_, rfl, hasked, hnone⟩)⟩
    · exact ⟨_, hmodule, List.mem_append_right _ (mem_missingImports.2
        ⟨_, rfl, ⟨_, mem_manualBlocks.2 hblock, hcalled⟩,
          fun hname ↦ hne (List.inj_on_of_nodup_map hgraph.module_names hother hmodule hname),
          hgraph.containsModule_iff.2 ⟨_, hother, rfl⟩, mt mem_requested.1 hunasked⟩)⟩

/-- What is objected to in settling a module accuses that module. -/
theorem of_mem_problems {problem : Problem}
    (h : problem ∈ danglingImports graph ledger module ++ missingImports graph ledger module) :
    ∃ name, problem = .danglingImport module.name name ∨
      problem = .missingImportDeclaration module.name name := by
  rcases List.mem_append.1 h with h | h
  · obtain ⟨target, -, rfl⟩ := List.mem_map.1 h
    exact ⟨target, .inl rfl⟩
  · obtain ⟨called, -, rfl⟩ := List.mem_map.1 h
    exact ⟨called, .inr rfl⟩

/-- Nothing is objected to twice. -/
theorem nodup_problems_settle (hgraph : graph.WellFormed) :
    (settle graph ledger).problems.Nodup := by
  rw [settle, List.nodup_flatMap]
  refine ⟨fun module _ ↦ ?_, (List.pairwise_map.1 hgraph.module_names).imp fun {a b} hne ↦ ?_⟩
  · refine List.Nodup.append ?_ ?_ fun problem hdangling hmissing ↦ ?_
    · exact (nodup_eraseDups _).map fun a b h ↦ (Problem.danglingImport.inj h).2
    · exact (nodup_eraseDups _).map fun a b h ↦ (Problem.missingImportDeclaration.inj h).2
    · obtain ⟨target, -, rfl⟩ := List.mem_map.1 hdangling
      obtain ⟨called, -, h⟩ := List.mem_map.1 hmissing
      cases h
  · intro problem ha hb
    obtain ⟨name, rfl | rfl⟩ := of_mem_problems ha
    · obtain ⟨other, h | h⟩ := of_mem_problems hb
      · exact hne (Problem.danglingImport.inj h).1
      · cases h
    · obtain ⟨other, h | h⟩ := of_mem_problems hb
      · cases h
      · exact hne (Problem.missingImportDeclaration.inj h).1

theorem mem_selfImports (hgraph : graph.WellFormed) (hmodule : module ∈ graph.modules)
    {warning : Warning} :
    warning ∈ selfImports graph ledger module ↔
      .request module.id module.name ∈ ledger ∧ warning = .selfImport module.name := by
  rw [selfImports_eq hgraph hmodule, List.mem_ite_nil_right, List.mem_singleton]

theorem nodup_selfImports (hgraph : graph.WellFormed) :
    (graph.modules.flatMap (selfImports graph ledger)).Nodup := by
  refine List.nodup_flatMap.2 ⟨fun module hmodule ↦ ?_, ?_⟩
  · rw [selfImports_eq hgraph hmodule]
    split
    · exact List.nodup_singleton _
    · exact List.nodup_nil
  · refine (List.pairwise_map.1 hgraph.module_names).imp_of_mem fun {a b} ha hb hne ↦ ?_
    intro warning hfirst hsecond
    have hsame := ((mem_selfImports hgraph ha).1 hfirst).2.symm.trans
      ((mem_selfImports hgraph hb).1 hsecond).2
    exact hne (Warning.selfImport.inj hsame)

/-- **A module that asks for itself is warned of once**, and no other is. -/
theorem count_selfImport_settle (hgraph : graph.WellFormed) (name : String) :
    (settle graph ledger).warnings.count (.selfImport name) =
      if ∃ module ∈ graph.modules, module.name = name ∧ .request module.id name ∈ ledger then 1
      else 0 := by
  have hcycles (cycles : List (List ModuleId)) : (cycles.map fun cycle ↦
      Warning.importCycle (cycle.map graph.moduleName)).count (.selfImport name) = 0 := by
    refine List.count_eq_zero.2 fun h ↦ ?_
    obtain ⟨cycle, -, hcycle⟩ := List.mem_map.1 h
    cases hcycle
  have hwarned : .selfImport name ∈ graph.modules.flatMap (selfImports graph ledger) ↔
      ∃ module ∈ graph.modules, module.name = name ∧ .request module.id name ∈ ledger := by
    rw [List.mem_flatMap]
    refine exists_congr fun module ↦ and_congr_right fun hmodule ↦ ?_
    rw [mem_selfImports hgraph hmodule, Warning.selfImport.injEq]
    constructor
    · rintro ⟨hasked, rfl⟩
      exact ⟨rfl, hasked⟩
    · rintro ⟨rfl, hasked⟩
      exact ⟨hasked, rfl⟩
  rw [settle]
  dsimp only
  rw [List.count_append, hcycles, Nat.add_zero, (nodup_selfImports hgraph).count]
  exact if_congr hwarned rfl rfl

/-! ### Strands -/

/-- What settling looks at as one: the records of one kind about one module, or the relocations. -/
inductive Strand where
  | requests (module : ModuleId)
  | references (module : ModuleId)
  | blocks (module : ModuleId)
  | relocations
  deriving DecidableEq, Repr

/-- The strand that a record is part of. -/
def strand : Record → Strand
  | .request module _ => .requests module
  | .reference module _ _ => .references module
  | .manual module _ => .blocks module
  | .relocation _ => .relocations

/-- The records of one strand, in the order of writing. -/
def along (ledger : Ledger) (part : Strand) : Ledger :=
  ledger.filter (strand · = part)

/-- What is looked up in one strand is not looked up elsewhere. -/
theorem filterMap_along {α : Type} {find : Record → Option α} {part : Strand}
    (hfind : ∀ record, (find record).isSome → strand record = part) (ledger : Ledger) :
    (ledger.along part).filterMap find = ledger.filterMap find := by
  rw [along, List.filterMap_filter]
  congr 1
  funext record
  by_cases hpart : strand record = part
  · rw [if_pos (decide_eq_true hpart)]
  · rw [if_neg (by simpa using hpart), eq_comm, ← Option.not_isSome_iff_eq_none]
    exact mt (hfind record) hpart

theorem requested_along (ledger : Ledger) (module : ModuleId) :
    (ledger.along (.requests module)).requested module = ledger.requested module := by
  refine filterMap_along (fun record h ↦ ?_) ledger
  cases record with
  | request owner target =>
    obtain ⟨name, hname⟩ := Option.isSome_iff_exists.1 h
    rw [strand, (Option.ite_none_right_eq_some.1 hname).1]
  | reference | manual | relocation => cases h

theorem referenced_along (ledger : Ledger) (module : ModuleId) :
    (ledger.along (.references module)).referenced module = ledger.referenced module := by
  refine filterMap_along (fun record h ↦ ?_) ledger
  cases record with
  | reference owner site via =>
    obtain ⟨name, hname⟩ := Option.isSome_iff_exists.1 h
    rw [strand, (Option.ite_none_right_eq_some.1 hname).1.1]
  | request | manual | relocation => cases h

theorem manualBlocks_along (ledger : Ledger) (module : ModuleId) :
    (ledger.along (.blocks module)).manualBlocks module = ledger.manualBlocks module := by
  refine filterMap_along (fun record h ↦ ?_) ledger
  cases record with
  | manual owner block =>
    obtain ⟨name, hname⟩ := Option.isSome_iff_exists.1 h
    rw [strand, (Option.ite_none_right_eq_some.1 hname).1]
  | request | reference | relocation => cases h

/-- Hand-written code is kept as it was recorded. -/
theorem map_manualBlocks (ledger : Ledger) (module : ModuleId) :
    (ledger.manualBlocks module).map (.manual module) = ledger.along (.blocks module) := by
  rw [manualBlocks, List.map_filterMap, along, ← List.filterMap_eq_filter]
  congr 1
  funext record
  cases record with
  | manual owner block =>
    by_cases howner : owner = module
    · simp [howner, strand]
    · simp [howner, strand, Option.guard]
  | request | reference | relocation => rfl

/-- Relocations are kept as they were recorded. -/
theorem map_relocations (ledger : Ledger) :
    ledger.relocations.map .relocation = ledger.along .relocations := by
  rw [relocations, List.map_filterMap, along, ← List.filterMap_eq_filter]
  congr 1
  funext record
  cases record with
  | request | reference | manual | relocation => rfl

/-- **Two ledgers agree on a module**: whatever else they hold and however it is shuffled, the
records of each kind about that module are the same. -/
structure AgreesOn (ledger other : Ledger) (module : ModuleId) : Prop where
  requests : ledger.along (.requests module) = other.along (.requests module)
  references : ledger.along (.references module) = other.along (.references module)
  blocks : ledger.along (.blocks module) = other.along (.blocks module)

namespace AgreesOn

variable {other : Ledger} {id : ModuleId} (h : ledger.AgreesOn other id)
include h

theorem requested_eq : other.requested id = ledger.requested id := by
  rw [← requested_along, ← h.requests, requested_along]

theorem referenced_eq : other.referenced id = ledger.referenced id := by
  rw [← referenced_along, ← h.references, referenced_along]

theorem manualBlocks_eq : other.manualBlocks id = ledger.manualBlocks id := by
  rw [← manualBlocks_along, ← h.blocks, manualBlocks_along]

end AgreesOn

/-- **How the strands are shuffled does not matter.** -/
theorem settle_eq_of_agreesOn {other : Ledger}
    (h : ∀ module ∈ graph.modules, ledger.AgreesOn other module.id) :
    settle graph other =
      { settle graph ledger with relocations := other.relocations } := by
  have hmodules : (graph.modules.map fun module ↦
        (⟨importList graph other module, other.manualBlocks module.id⟩ : ModuleImports)) =
      graph.modules.map fun module ↦
        ⟨importList graph ledger module, ledger.manualBlocks module.id⟩ := by
    refine List.map_congr_left fun module hmodule ↦ ?_
    rw [importList, importList, requestedModules, requestedModules,
      (h module hmodule).requested_eq, (h module hmodule).referenced_eq,
      (h module hmodule).manualBlocks_eq]
  have hproblems : (graph.modules.flatMap fun module ↦
        danglingImports graph other module ++ missingImports graph other module) =
      graph.modules.flatMap fun module ↦
        danglingImports graph ledger module ++ missingImports graph ledger module := by
    refine List.flatMap_congr fun module hmodule ↦ ?_
    rw [danglingImports, danglingImports, missingImports, missingImports,
      (h module hmodule).requested_eq, (h module hmodule).manualBlocks_eq]
  have hselves : graph.modules.flatMap (selfImports graph other) =
      graph.modules.flatMap (selfImports graph ledger) := by
    refine List.flatMap_congr fun module hmodule ↦ ?_
    rw [selfImports, selfImports, (h module hmodule).requested_eq]
  rw [settle, settle]
  dsimp only
  rw [hmodules, hproblems, hselves]

/-! ### The settlement -/

/-- **A ledger is settled exactly.** Of each module of the run it leaves the one listing that the
records allow, and the hand-written code as recorded. Each objection that there is reason for is a
problem, once. A module is warned of as asking for itself once if it does, and else not at all.
Relocations are left as recorded. Nothing but the relocations depends on how the strands of the
modules are shuffled. -/
theorem settle_exact (hgraph : graph.Built) (ledger : Ledger) :
    List.Forall₂ (fun module settled ↦
        (∀ imports, Listing graph ledger module imports ↔ settled.imports = imports) ∧
        settled.manualBlocks.map (.manual module.id) = ledger.along (.blocks module.id))
      graph.modules (settle graph ledger).modules ∧
    (settle graph ledger).problems.Nodup ∧
    (∀ problem, problem ∈ (settle graph ledger).problems ↔ Objection graph ledger problem) ∧
    (∀ name, (settle graph ledger).warnings.count (.selfImport name) =
      if ∃ module ∈ graph.modules, module.name = name ∧ .request module.id name ∈ ledger then 1
      else 0) ∧
    (settle graph ledger).relocations.map .relocation = ledger.along .relocations ∧
    ∀ other : Ledger, (∀ module ∈ graph.modules, ledger.AgreesOn other module.id) →
      settle graph other = { settle graph ledger with relocations := other.relocations } := by
  have hwell := hgraph.wellFormed
  refine ⟨?_, nodup_problems_settle hwell, fun problem ↦ mem_problems_settle hwell,
    count_selfImport_settle hwell, map_relocations ledger, fun other h ↦ settle_eq_of_agreesOn h⟩
  rw [settle, List.forall₂_map_right_iff, List.forall₂_same]
  intro module hmodule
  refine ⟨fun imports ↦ ⟨fun h ↦ ?_, ?_⟩, map_manualBlocks ledger module.id⟩
  · exact (listing_importList hwell hmodule).eq h
  · rintro rfl
    exact listing_importList hwell hmodule

/-- A ledger in which `api` refers to `tools` before it asks for anything, and asks for itself and
for a module outside the run; what `tools` calls for only `api` asks for. -/
def mixedLedger : Ledger :=
  [.reference ⟨2⟩ ⟨3⟩ ⟨4⟩, .request ⟨2⟩ "core", .request ⟨2⟩ "api", .request ⟨2⟩ "ghost",
    .manual ⟨3⟩ ⟨"tools", "import(\"core\")", ["core"]⟩, .reference ⟨2⟩ ⟨3⟩ ⟨5⟩,
    .request ⟨2⟩ "ghost", .reference ⟨2⟩ ⟨1⟩ ⟨4⟩, .request ⟨2⟩ "core", .request ⟨2⟩ "api"]

theorem mixedLedger_settled :
    Listing Document.sampleGraph mixedLedger ⟨⟨2⟩, "api", [⟨"import", some "core"⟩]⟩
        [⟨⟨1⟩, .explicit⟩, ⟨⟨3⟩, .inferred ⟨4⟩⟩] ∧
      (settle Document.sampleGraph mixedLedger).problems =
        [.danglingImport "api" "ghost", .missingImportDeclaration "tools" "core"] ∧
      (settle Document.sampleGraph mixedLedger).warnings.count (.selfImport "api") = 1 := by
  obtain ⟨hmodules, -, -, hselves, -, -⟩ := settle_exact Document.sampleGraph_built mixedLedger
  rw [settle, List.forall₂_map_right_iff, List.forall₂_same] at hmodules
  have hasking : (⟨⟨2⟩, "api", [⟨"import", some "core"⟩]⟩ : Module) ∈
      Document.sampleGraph.modules := by simp [Document.sampleGraph]
  refine ⟨((hmodules _ hasking).1 _).2 rfl, rfl, ?_⟩
  rw [hselves, if_pos ⟨_, hasking, rfl, by simp [mixedLedger]⟩]

end Ledger

end Exposure.Import
