import Exposure.Proofs.Document.Profiles

/-!
# Interleaved documents

A document lists the declarations of all modules in one list. Another document may **interleave**
the same declarations differently: each module has the same records in the same order, but between
those of other modules (`Document.Interleaves`). Declarations are numbered in order of acceptance,
so the two come to different identities.

They come to nothing else that is different: if one document has a graph then so has the other, and
this is the same graph renumbered (`Document.Interleaves.exists_renumbered`). Which number goes to
which can be told by name (`Graph.renumbering`).
-/

namespace Exposure

open Exposure.Graph (Draft)

/-- **Another interleaving of the same records**: the same modules, and for each module the same
records in the same order. -/
structure Document.Interleaves (document other : Document) : Prop where
  modules : document.modules = other.modules
  records : ∀ name, document.declarations.filter (·.module = name) =
    other.declarations.filter (·.module = name)

/-! ### Renumbering by name -/

namespace Graph

/-- The declaration of a graph that bears the name of another declaration. -/
def counterpart? (graph : Graph) (declaration : Declaration) : Option Declaration :=
  graph.declarations.find? fun other ↦ other.name = declaration.name

/-- The number that another graph gives to the declaration of the same name. -/
def renumbering (graph graph' : Graph) (id : DeclId) : DeclId :=
  (((graph.declaration? id).bind graph'.counterpart?).map (·.id)).getD id

/-- A number that is not declared stays. -/
theorem renumbering_eq_self {graph graph' : Graph} {id : DeclId}
    (hnone : graph.declaration? id = none) : graph.renumbering graph' id = id := by
  rw [renumbering, hnone]
  rfl

/-- Members that agree one by one are mapped alike. -/
theorem map_eq_of_map_eq {α β γ : Type} {f : α → γ} {g : β → γ} {r : α → β} {xs : List α}
    {ys : List β} (h : xs.map f = ys.map g)
    (hr : ∀ x ∈ xs, ∀ y ∈ ys, f x = g y → r x = y) : xs.map r = ys := by
  induction xs generalizing ys with
  | nil =>
    rcases ys with - | ⟨y, ys⟩
    · rfl
    · cases h
  | cons x xs ih =>
    rcases ys with - | ⟨y, ys⟩
    · cases h
    · obtain ⟨hhead, htail⟩ := List.cons.inj h
      rw [List.map_cons, hr x (by simp) y (by simp) hhead, ih htail fun x hx y hy ↦
        hr x (List.mem_cons_of_mem _ hx) y (List.mem_cons_of_mem _ hy)]

section Renumbering

variable {graph graph' : Graph} (hgraph : graph.WellFormed) (hgraph' : graph'.WellFormed)
include hgraph hgraph'

/-- A name leads from the one number to the other. -/
theorem renumbering_eq {declaration counterpart : Declaration}
    (hmem : declaration ∈ graph.declarations) (hmem' : counterpart ∈ graph'.declarations)
    (hname : declaration.name = counterpart.name) :
    graph.renumbering graph' declaration.id = counterpart.id := by
  have hfound : graph'.counterpart? declaration = some counterpart :=
    (find?_eq_some_of_nodup hgraph'.declaration_names).2 ⟨hmem', hname.symm⟩
  rw [renumbering, hgraph.declaration?_eq_some.2 ⟨hmem, rfl⟩, Option.bind_some, hfound]
  rfl

/-- **Declarations with one profile** are the same but for their numbers. -/
theorem renumber_eq_of_profile_eq {declaration counterpart : Declaration}
    (hmem : declaration ∈ graph.declarations) (hmem' : counterpart ∈ graph'.declarations)
    (h : graph.profile declaration = graph'.profile counterpart) :
    declaration.renumber (graph.renumbering graph') = counterpart := by
  simp only [profile, Profile.mk.injEq] at h
  obtain ⟨hname, hkind, hmodule, hparent, htarget, hmarks⟩ := h
  have hid := renumbering_eq hgraph hgraph' hmem hmem' hname
  have hparents : declaration.parent.map (graph.renumbering graph') = counterpart.parent := by
    rcases hone : declaration.parent with - | id
    · rw [hone] at hparent
      rw [Option.map_eq_none_iff.1 hparent.symm]
      rfl
    · rw [hone, Option.map_some, eq_comm, Option.map_eq_some_iff] at hparent
      obtain ⟨id', hother, hnames⟩ := hparent
      obtain ⟨scope, hscope, rfl, -⟩ := hgraph.parents declaration hmem id hone
      obtain ⟨scope', hscope', rfl, -⟩ := hgraph'.parents counterpart hmem' id' hother
      rw [hgraph.declarationName_eq hscope, hgraph'.declarationName_eq hscope'] at hnames
      rw [hother, Option.map_some, renumbering_eq hgraph hgraph' hscope hscope' hnames.symm]
  rw [Declaration.renumber, hid, hparents, hname, hkind, hmodule, htarget, hmarks]

variable (hmodules : graph'.modules = graph.modules)
  (hmembers : ∀ module, (graph.members module).map graph.profile =
    (graph'.members module).map graph'.profile)
include hmodules hmembers

omit hgraph hgraph' hmodules in
/-- Every declaration has a counterpart with the same profile. -/
theorem exists_profile_eq {declaration : Declaration} (hmem : declaration ∈ graph.declarations) :
    ∃ counterpart ∈ graph'.declarations,
      graph.profile declaration = graph'.profile counterpart := by
  have hmember : graph.profile declaration ∈ (graph.members declaration.module).map graph.profile :=
    List.mem_map_of_mem (List.mem_filter.2 ⟨hmem, by simp⟩)
  rw [hmembers] at hmember
  obtain ⟨counterpart, hcounterpart, heq⟩ := List.mem_map.1 hmember
  exact ⟨counterpart, (List.mem_filter.1 hcounterpart).1, heq.symm⟩

theorem length_declarations_eq : graph'.declarations.length = graph.declarations.length := by
  have htraversal : graph.traversal.map graph.profile = graph'.traversal.map graph'.profile := by
    rw [traversal, traversal, hmodules, List.map_flatMap, List.map_flatMap]
    exact List.flatMap_congr fun module _ ↦ hmembers module.id
  have hlength := congrArg List.length htraversal
  rw [List.length_map, List.length_map] at hlength
  rw [← hgraph'.traversal_perm.length_eq, ← hgraph.traversal_perm.length_eq, hlength]

/-- Both graphs number the same number of declarations. -/
theorem isSome_declaration?_iff (id : DeclId) :
    (graph'.declaration? id).isSome ↔ (graph.declaration? id).isSome := by
  rw [declaration?, declaration?, isSome_nth?, isSome_nth?,
    length_declarations_eq hgraph hgraph' hmodules hmembers]

omit hmodules in
/-- A declared number becomes that of the declaration with the same name. -/
theorem exists_renumbering_eq {declaration : Declaration}
    (hmem : declaration ∈ graph.declarations) :
    ∃ counterpart ∈ graph'.declarations, declaration.name = counterpart.name ∧
      graph.renumbering graph' declaration.id = counterpart.id := by
  obtain ⟨counterpart, hcounterpart, hprofile⟩ := exists_profile_eq hmembers hmem
  have hname := congrArg Profile.name hprofile
  exact ⟨counterpart, hcounterpart, hname, renumbering_eq hgraph hgraph' hmem hcounterpart hname⟩

/-- No two numbers become the same one: a declared number becomes a declared one, by name, and all
other numbers stay. -/
theorem renumbering_injective : Function.Injective (graph.renumbering graph') := by
  -- A number that stays is not declared in the other graph either.
  have happart {id other : DeclId} {declaration : Declaration}
      (hfound : graph.declaration? id = some declaration)
      (hnone : graph.declaration? other = none) :
      graph.renumbering graph' id ≠ graph.renumbering graph' other := by
    obtain ⟨hmem, rfl⟩ := hgraph.declaration?_eq_some.1 hfound
    obtain ⟨counterpart, hcounterpart, -, hid⟩ := exists_renumbering_eq hgraph hgraph' hmembers hmem
    rw [hid, renumbering_eq_self hnone]
    rintro rfl
    have hsome := (isSome_declaration?_iff hgraph hgraph' hmodules hmembers _).1
      (Option.isSome_of_eq_some (hgraph'.declaration?_eq_some.2 ⟨hcounterpart, rfl⟩))
    rw [hnone] at hsome
    cases hsome
  intro id other heq
  rcases hid : graph.declaration? id with - | declaration
  · rcases hid' : graph.declaration? other with - | declaration'
    · rwa [renumbering_eq_self hid, renumbering_eq_self hid'] at heq
    · exact absurd heq.symm (happart hid' hid)
  · rcases hid' : graph.declaration? other with - | declaration'
    · exact absurd heq (happart hid hid')
    · obtain ⟨hmem, rfl⟩ := hgraph.declaration?_eq_some.1 hid
      obtain ⟨hmem', rfl⟩ := hgraph.declaration?_eq_some.1 hid'
      obtain ⟨counterpart, hcounterpart, hname, hone⟩ :=
        exists_renumbering_eq hgraph hgraph' hmembers hmem
      obtain ⟨counterpart', hcounterpart', hname', hother⟩ :=
        exists_renumbering_eq hgraph hgraph' hmembers hmem'
      have hsame := hgraph'.declaration_unique hcounterpart hcounterpart'
        (hone.symm.trans (heq.trans hother))
      rw [hgraph.declaration_unique_of_name hmem hmem'
        (hname.trans ((congrArg _ hsame).trans hname'.symm))]

/-- **Graphs with the same profiles module by module are each other's renumbering.** -/
theorem renumbered_of_profiles : Renumbered (graph.renumbering graph') graph graph' where
  injective := renumbering_injective hgraph hgraph' hmodules hmembers
  modules := hmodules
  length := length_declarations_eq hgraph hgraph' hmodules hmembers
  declaration? id := by
    rcases hid : graph.declaration? id with - | declaration
    · have hnone : ¬ (graph'.declaration? id).isSome := by
        rw [isSome_declaration?_iff hgraph hgraph' hmodules hmembers, hid]
        exact Bool.false_ne_true
      rw [renumbering_eq_self hid]
      simpa using hnone
    · obtain ⟨hmem, rfl⟩ := hgraph.declaration?_eq_some.1 hid
      obtain ⟨counterpart, hcounterpart, hprofile⟩ :=
        exists_profile_eq hmembers hmem
      have hsame := renumber_eq_of_profile_eq hgraph hgraph' hmem hcounterpart hprofile
      rw [Option.map_some, hsame]
      exact hgraph'.declaration?_eq_some.2 ⟨hcounterpart, (congrArg Declaration.id hsame).symm⟩
  members module := (map_eq_of_map_eq (hmembers module) fun declaration hmem counterpart hmem' ↦
    renumber_eq_of_profile_eq hgraph hgraph' (List.mem_filter.1 hmem).1
      (List.mem_filter.1 hmem').1).symm

end Renumbering
end Graph

/-! ### Graphs of interleaved documents -/

theorem filterMap_eq_of_map_eq {α β : Type} {f : α → Option β} {xs : List α} {ys : List β}
    (h : xs.map f = ys.map some) : xs.filterMap f = ys := by
  have hid : xs.filterMap f = (xs.map f).filterMap id := by rw [List.filterMap_map]; rfl
  rw [hid, h, List.filterMap_map]
  exact List.filterMap_some

theorem map_eq_map_some {α β : Type} {f : α → Option β} {xs : List α}
    (h : ∀ x ∈ xs, ∃ y, f x = some y) : xs.map f = (xs.filterMap f).map some := by
  induction xs with
  | nil => rfl
  | cons x xs ih =>
    obtain ⟨⟨y, hy⟩, hrest⟩ := List.forall_mem_cons.1 h
    rw [List.map_cons, List.filterMap_cons_some hy, List.map_cons, ih hrest, hy]

namespace Document.Interleaves

variable {document other : Document} (h : document.Interleaves other)
include h

theorem symm : other.Interleaves document :=
  ⟨h.modules.symm, fun name ↦ (h.records name).symm⟩

/-- The records are the same in another order. -/
theorem declarations_perm : document.declarations.Perm other.declarations := by
  refine List.perm_iff_count.2 fun record ↦ ?_
  have hrecords := congrArg (List.count record) (h.records record.module)
  rwa [List.count_filter (by simp), List.count_filter (by simp)] at hrecords

/-- The records of whatever is no more than one module are the same in the same order. -/
theorem filter_eq {p : String → Bool} (hone : ∀ a b, p a → p b → a = b) :
    document.declarations.filter (fun record ↦ p record.module) =
      other.declarations.filter fun record ↦ p record.module := by
  by_cases hname : ∃ name, p name
  · obtain ⟨name, hname⟩ := hname
    have hsame : (fun record : DeclarationRecord ↦ p record.module) =
        fun record ↦ decide (record.module = name) := by
      funext record
      rw [Bool.eq_iff_iff, decide_eq_true_iff]
      exact ⟨fun hrecord ↦ hone _ _ hrecord hname, fun heq ↦ heq ▸ hname⟩
    rw [hsame]
    exact h.records name
  · have hnone (record : DeclarationRecord) : ¬ p record.module := fun hp ↦ hname ⟨_, hp⟩
    rw [List.filter_eq_nil_iff.2 fun record _ ↦ hnone record,
      List.filter_eq_nil_iff.2 fun record _ ↦ hnone record]

/-- **A document settles if another interleaving of it does**, and with the same modules. -/
theorem exists_settlesInto {graph : Graph} (hgraph : document.SettlesInto graph) :
    ∃ graph', other.SettlesInto graph' ∧ graph'.modules = graph.modules := by
  have hprofiles := hgraph.profiles
  have htogether := hgraph.together
  obtain ⟨start, draft, hstart, hdraft, -, hmodules⟩ := hgraph
  obtain ⟨profiles, -, -, -, -, rfl⟩ := addDeclarations_eq_ok.1 hdraft
  have hsame : graph.moduleNamed = start.moduleNamed := by
    funext name
    rw [Graph.moduleNamed, Draft.moduleNamed, hmodules]
  rw [hsame] at hprofiles
  have hperm := h.declarations_perm.filterMap (·.profile? start.moduleNamed)
  -- Each record of the other document has a profile, for it is one of this document too.
  have hothers : other.declarations.map (·.profile? start.moduleNamed) =
      (other.declarations.filterMap (·.profile? start.moduleNamed)).map some := by
    refine map_eq_map_some fun record hrecord ↦ ?_
    have hmem : record.profile? start.moduleNamed ∈
        document.declarations.map (·.profile? start.moduleNamed) :=
      List.mem_map_of_mem (h.declarations_perm.mem_iff.2 hrecord)
    rw [hprofiles] at hmem
    obtain ⟨profile, -, hprofile⟩ := List.mem_map.1 hmem
    exact ⟨profile, hprofile.symm⟩
  rw [filterMap_eq_of_map_eq hprofiles] at hperm
  rw [h.modules] at hstart
  obtain ⟨graph', hgraph', hmodules'⟩ :=
    Document.exists_settlesInto hstart hothers (htogether.perm hperm)
  exact ⟨graph', hgraph', hmodules'.trans hmodules.symm⟩

/-- **Interleaved documents come to the same profiles, module by module.** -/
theorem profiles_eq {graph graph' : Graph} (hgraph : document.SettlesInto graph)
    (hgraph' : other.SettlesInto graph') (hmodules : graph'.modules = graph.modules)
    (module : ModuleId) :
    (graph.members module).map graph.profile = (graph'.members module).map graph'.profile := by
  have hsame : graph'.moduleNamed = graph.moduleNamed := by
    funext name
    rw [Graph.moduleNamed, Graph.moduleNamed, hmodules]
  have hprofiles := filterMap_eq_of_map_eq hgraph.profiles
  have hprofiles' := filterMap_eq_of_map_eq hgraph'.profiles
  rw [hsame] at hprofiles'
  -- The members of a module are what comes of the records that name it.
  have hmembers {graph₀ : Graph} {records : List DeclarationRecord}
      (h : records.filterMap (·.profile? graph.moduleNamed) =
        graph₀.declarations.map graph₀.profile) :
      (graph₀.members module).map graph₀.profile =
        (records.filter fun record ↦
          ((graph.moduleNamed record.module).map (·.id) = some module)).filterMap
            (·.profile? graph.moduleNamed) := by
    have hfilter : (graph₀.members module).map graph₀.profile =
        (graph₀.declarations.map graph₀.profile).filter (·.module = module) := by
      rw [List.filter_map]
      rfl
    rw [hfilter, ← h, List.filter_filterMap, List.filterMap_filter]
    refine List.filterMap_congr fun record _ ↦ ?_
    rw [DeclarationRecord.profile?]
    rcases Kind.ofText? record.kind with - | kind
    · simp
    · rcases graph.moduleNamed record.module with - | owner
      · simp
      · by_cases howner : owner.id = module <;> simp [howner]
  have hone : ∀ a b, (graph.moduleNamed a).map (·.id) = some module →
      (graph.moduleNamed b).map (·.id) = some module → a = b := by
    intro a b ha hb
    obtain ⟨first, hfirst, hid⟩ := Option.map_eq_some_iff.1 ha
    obtain ⟨second, hsecond, hid'⟩ := Option.map_eq_some_iff.1 hb
    obtain ⟨hmem, rfl⟩ := hgraph.wellFormed.moduleNamed_eq_some.1 hfirst
    obtain ⟨hmem', rfl⟩ := hgraph.wellFormed.moduleNamed_eq_some.1 hsecond
    rw [hgraph.wellFormed.module_unique hmem hmem' (hid.trans hid'.symm)]
  rw [hmembers hprofiles, hmembers hprofiles',
    h.filter_eq (p := fun name ↦ (graph.moduleNamed name).map (·.id) = some module)
      fun a b ha hb ↦ hone a b (of_decide_eq_true ha) (of_decide_eq_true hb)]

/-- **Documents that settle as interleavings of each other settle into renumbered graphs.** -/
theorem renumbered {graph graph' : Graph} (hgraph : document.SettlesInto graph)
    (hgraph' : other.SettlesInto graph') (hmodules : graph'.modules = graph.modules) :
    Graph.Renumbered (graph.renumbering graph') graph graph' :=
  Graph.renumbered_of_profiles hgraph.wellFormed hgraph'.wellFormed hmodules
    (h.profiles_eq hgraph hgraph' hmodules)

/-- **A document has a graph if another interleaving of it has one**, and it is the same graph
renumbered. -/
theorem exists_renumbered {graph : Graph} (hgraph : document.toGraph = .ok graph) :
    ∃ graph', other.toGraph = .ok graph' ∧
      Graph.Renumbered (graph.renumbering graph') graph graph' := by
  obtain ⟨hsettles, hcheck⟩ := toGraph_eq_ok_iff.1 hgraph
  obtain ⟨graph', hsettles', hmodules⟩ := h.exists_settlesInto hsettles
  have hrenumbered := h.renumbered hsettles hsettles' hmodules
  refine ⟨graph', toGraph_eq_ok_iff.2 ⟨hsettles', ?_⟩, hrenumbered⟩
  refine Draft.checkChains_eq_ok_of_ends hsettles'.wellFormed fun declaration hmem ↦ ?_
  -- What the chain of the original comes to an end with, this one does too.
  obtain ⟨original, horiginal, rfl⟩ :=
    hrenumbered.exists_of_mem_declarations hsettles'.wellFormed hmem
  have hends := Draft.ends_of_checkChains hsettles.wellFormed (by simp)
    (List.Subset.refl _) hcheck original horiginal
  exact hrenumbered.ends hends

end Document.Interleaves
end Exposure
