import Exposure.Proofs.Addressed.Places
import Exposure.Proofs.Graph.Histories

/-!
# What a builder represents

Calls are made on a builder, accepted and rejected in any mix (`Builder.callAll`), and in the end
its collections are handed over. This file says what these hold (`Indexed.Represents`): who is
numbered how and found where, by identity and by name, which module lists whom, and which scope a
declaration is in, all of it in terms of the calls that were accepted.

A builder does with a call what a draft does with it (`Builder.Agrees.call`), so the history of a
builder is that of a draft (`Builder.Agrees.callAll`), and what a draft holds of its accepted calls
(`Draft.Holds`) is in the collections that the builder hands over. `Builder.history_represented`
puts this together; that the collections agree after every history is the invariant it rests on.

Built graphs are the graphs that builders hand over (`built_iff_exists_history`). What a run asks of
a built graph is therefore what stored collections answer, with identities that are in range
(`Built.exists_stored`).
-/

namespace Exposure.Graph

namespace Builder

/-! ### Calls -/

/-- Makes a call. -/
def call : Call → EStateM Fault Builder Identity
  | .addModule name marks => do return .module (← addModule name marks)
  | .addDeclaration spec => do return .declaration (← addDeclaration spec)

/-- The builder after an operation, whatever came of it. -/
def after {α : Type} : EStateM.Result Fault Builder α → Builder
  | .ok _ builder => builder
  | .error _ builder => builder

/-- Makes calls one after the other. -/
def callAll (builder : Builder) (calls : List Call) : Builder :=
  calls.foldl (fun builder one ↦ after (call one builder)) builder

/-- The calls that are accepted when they are made one after the other. -/
def accepted (builder : Builder) : List Call → List Call
  | [] => []
  | one :: rest =>
    match call one builder with
    | .ok _ next => one :: accepted next rest
    | .error _ next => accepted next rest

variable {builder next : Builder}

theorem call_addModule (name : String) (marks : List Mark) :
    call (.addModule name marks) builder = match addModule name marks builder with
      | .ok id next => .ok (.module id) next
      | .error fault next => .error fault next := by
  show EStateM.bind (addModule name marks) (fun id ↦ pure (Identity.module id)) builder = _
  rw [EStateM.bind]
  rcases addModule name marks builder with ⟨id, next⟩ | ⟨fault, next⟩ <;> rfl

theorem call_addDeclaration (spec : Spec) :
    call (.addDeclaration spec) builder = match addDeclaration spec builder with
      | .ok id next => .ok (.declaration id) next
      | .error fault next => .error fault next := by
  show EStateM.bind (addDeclaration spec) (fun id ↦ pure (Identity.declaration id)) builder = _
  rw [EStateM.bind]
  rcases addDeclaration spec builder with ⟨id, next⟩ | ⟨fault, next⟩ <;> rfl

/-- **A rejected call leaves the builder as it was.** -/
theorem of_call_eq_error {one : Call} {fault : Fault} (h : call one builder = .error fault next) :
    next = builder := by
  cases one with
  | addModule name marks =>
    rw [call_addModule] at h
    split at h <;> cases h
    rename_i hadd
    exact of_addModule_eq_error hadd
  | addDeclaration spec =>
    rw [call_addDeclaration] at h
    split at h <;> cases h
    rename_i hadd
    exact of_addDeclaration_eq_error hadd

/-- **What is rejected leaves no trace**: a history comes to what its accepted calls come to
alone. -/
theorem callAll_accepted (builder : Builder) (calls : List Call) :
    builder.callAll (builder.accepted calls) = builder.callAll calls := by
  induction calls generalizing builder with
  | nil => rfl
  | cons one calls ih =>
    rw [accepted]
    split
    · rename_i identity next hcall
      show (after (call one builder)).callAll _ = (after (call one builder)).callAll _
      rw [hcall]
      exact ih next
    · rename_i fault next hcall
      obtain rfl := of_call_eq_error hcall
      show _ = (after (call one next)).callAll _
      rw [hcall]
      exact ih next

/-! ### Histories of builders and of drafts -/

namespace Agrees

variable {draft : Draft} (h : builder.Agrees draft)
include h

/-- **A call is accepted by both or by none**, with the same identity or the same fault. -/
theorem call (one : Call) :
    Matches builder (Builder.call one builder)
      (match draft.call one with
        | (next, .ok identity) => .ok (next, identity)
        | (_, .error fault) => .error fault) := by
  cases one with
  | addModule name marks =>
    have hadd := h.addModule name marks
    rw [call_addModule, Draft.call]
    generalize Builder.addModule name marks builder = result at hadd ⊢
    generalize draft.addModule name marks = outcome at hadd ⊢
    cases hadd with
    | accepted hagrees => exact .accepted hagrees
    | rejected => exact .rejected
  | addDeclaration spec =>
    have hadd := h.addDeclaration spec
    rw [call_addDeclaration, Draft.call]
    generalize Builder.addDeclaration spec builder = result at hadd ⊢
    generalize draft.addDeclaration spec = outcome at hadd ⊢
    cases hadd with
    | accepted hagrees => exact .accepted hagrees
    | rejected => exact .rejected

/-- A call is accepted by the builder with the identity that the draft gives out. -/
theorem call_eq_ok_iff {one : Call} {identity : Identity} :
    (∃ next, Builder.call one builder = .ok identity next) ↔
      ∃ next, draft.call one = (next, .ok identity) := by
  have hcall := h.call one
  rcases hdraft : draft.call one with ⟨next, fault | given⟩ <;> rw [hdraft] at hcall
  · generalize Builder.call one builder = result at hcall ⊢
    cases hcall
    exact iff_of_false (by rintro ⟨_, ⟨⟩⟩) (by rintro ⟨_, ⟨⟩⟩)
  · generalize Builder.call one builder = result at hcall ⊢
    cases hcall
    simp

/-- **After a history builder and draft agree**, and both have accepted the same calls. -/
theorem callAll (calls : List Call) :
    (builder.callAll calls).Agrees (draft.callAll calls) ∧
      builder.accepted calls = draft.accepted calls := by
  induction calls generalizing builder draft with
  | nil => exact ⟨h, rfl⟩
  | cons one calls ih =>
    have hcall := h.call one
    rw [Builder.callAll, Draft.callAll, List.foldl_cons, List.foldl_cons, accepted, Draft.accepted]
    rcases hdraft : draft.call one with ⟨next, fault | identity⟩
    · obtain rfl := Draft.call_eq_error hdraft
      rw [hdraft] at hcall
      generalize Builder.call one builder = result at hcall ⊢
      cases hcall
      exact ih h
    · rw [hdraft] at hcall
      generalize Builder.call one builder = result at hcall ⊢
      cases hcall with
      | accepted hagrees =>
        obtain ⟨hall, haccepted⟩ := ih hagrees
        exact ⟨hall, congrArg (one :: ·) haccepted⟩

end Agrees
end Builder

/-- **Built graphs are the graphs that builders hand over** after some history of calls. -/
theorem built_iff_exists_history {graph : Graph} :
    graph.Built ↔ ∃ calls indexed, (Builder.empty.callAll calls).build = .ok indexed ∧
      indexed.graph = graph := by
  constructor
  · rintro ⟨draft, hreached, hbuild⟩
    obtain ⟨calls, rfl⟩ := hreached.exists_callAll
    have hgraph := (Builder.agrees_empty.callAll calls).1.build
    rw [hbuild] at hgraph
    rcases hresult : (Builder.empty.callAll calls).build with fault | indexed
    · rw [hresult] at hgraph
      cases hgraph
    · rw [hresult] at hgraph
      exact ⟨calls, indexed, hresult, Except.ok.inj hgraph⟩
  · rintro ⟨calls, indexed, hbuild, rfl⟩
    have hgraph := (Builder.agrees_empty.callAll calls).1.build
    rw [hbuild] at hgraph
    exact ⟨_, Draft.Reached.empty.callAll calls, hgraph.symm⟩

/-! ### What collections represent -/

/-- **A declaration is what an accepted call said of it.** -/
structure Spec.Describes (indexed : Indexed) (spec : Spec) (declaration : Declaration) : Prop where
  name : declaration.name = Name.withoutGlobal spec.name
  kind : declaration.kind = spec.kind
  module : (indexed.module? declaration.module).map (·.name) = some spec.module
  target : declaration.target = spec.target
  marks : declaration.marks = spec.marks
  outermost : spec.parent = none → declaration.parent = none
  /-- Its parent is the name scope that the call named. -/
  nested : ∀ name, spec.parent = some name → ∃ id scope, indexed.lookup name = some id ∧
    indexed.declaration? id = some scope ∧ scope.kind = .scope ∧ declaration.parent = some id

namespace Indexed

/-- In traversal order one declaration comes before another: its module does, or it does within
their module. -/
def Precedes (indexed : Indexed) (one other : DeclId) : Prop :=
  ∃ first second, indexed.declaration? one = some first ∧
    indexed.declaration? other = some second ∧ Graph.Precedes first second

/-- **Collections represent the calls that were accepted.** -/
structure Represents (indexed : Indexed) (calls : List Call) : Prop where
  declaration_count : indexed.declarations.length = (calls.filterMap Call.spec?).length
  /-- The declarations are numbered in order of acceptance, and found by number. -/
  declarations : ∀ (index : Nat) (spec : Spec), (calls.filterMap Call.spec?)[index]? = some spec →
    ∃ declaration, indexed.declaration? (.ofIndex index) = some declaration ∧
      declaration.id = .ofIndex index ∧ spec.Describes indexed declaration
  module_count : indexed.modules.length = (calls.filterMap Call.module?).length
  /-- The modules are numbered in order of acceptance, and found by number. -/
  modules : ∀ (index : Nat) (name : String) (marks : List Mark),
    (calls.filterMap Call.module?)[index]? = some (name, marks) →
    ∃ module, indexed.module? (.ofIndex index) = some module ∧
      module.toModule = ⟨.ofIndex index, name, marks⟩
  /-- A name without its global marker leads to the declaration that is stored under it. -/
  lookup : ∀ name id, indexed.lookup name = some id ↔
    (indexed.declaration? id).map (·.name) = some (Name.withoutGlobal name)
  /-- A name leads to the module that has it. -/
  moduleNamed : ∀ name id, indexed.moduleNamed name = some id ↔
    (indexed.module? id).map (·.name) = some name
  declaration_names : (indexed.declarations.map (·.name)).Nodup
  module_names : (indexed.modules.map (·.name)).Nodup
  /-- Every declaration is listed by one module, its own. -/
  owner : ∀ declaration ∈ indexed.declarations, ∃ module ∈ indexed.modules,
    module.id = declaration.module ∧
      ∀ other ∈ indexed.modules, declaration.id ∈ other.declarations ↔ other = module
  /-- A module lists declarations in order of acceptance, each once. -/
  lists : ∀ module ∈ indexed.modules,
    module.declarations.Pairwise fun one other ↦ one.number < other.number
  /-- The traversal meets every declaration once. -/
  traversal : indexed.traversal.Perm (indexed.declarations.map (·.id))
  /-- The traversal goes by modules, and within a module by declarations. -/
  traversal_order : indexed.traversal.Pairwise indexed.Precedes
  targets : ∀ declaration ∈ indexed.declarations, declaration.target.isSome ↔ declaration.isAlias

/-! ### What collections that agree represent -/

namespace Consistent

variable {indexed : Indexed} (h : indexed.Consistent)
include h

theorem lookup_eq_some_iff (name : String) (id : DeclId) : indexed.lookup name = some id ↔
    (indexed.declaration? id).map (·.name) = some (Name.withoutGlobal name) := by
  rw [Indexed.lookup, h.byName, Option.map_eq_some_iff]
  refine exists_congr fun declaration ↦ ?_
  rw [h.declaration?_eq_some, and_assoc]

theorem moduleNamed_eq_some_iff (name : String) (id : ModuleId) :
    indexed.moduleNamed name = some id ↔ (indexed.module? id).map (·.name) = some name := by
  rw [Indexed.moduleNamed, h.moduleByName, Option.map_eq_some_iff]
  refine exists_congr fun module ↦ ?_
  rw [h.module?_eq_some, and_assoc]

/-- The list of a module has the declarations that belong to it, and no others. -/
theorem mem_declarations_iff {module : OwningModule} (hmodule : module ∈ indexed.modules)
    {declaration : Declaration} (hmem : declaration ∈ indexed.declarations) :
    declaration.id ∈ module.declarations ↔ declaration.module = module.id := by
  rw [h.lists module hmodule, List.mem_map]
  constructor
  · rintro ⟨listed, hlisted, hid⟩
    obtain ⟨hdeclared, howned⟩ := List.mem_filter.1 hlisted
    rw [h.declaration_unique hmem hdeclared hid.symm]
    exact of_decide_eq_true howned
  · exact fun howned ↦ ⟨declaration, List.mem_filter.2 ⟨hmem, decide_eq_true howned⟩, rfl⟩

theorem exists_owner {declaration : Declaration} (hmem : declaration ∈ indexed.declarations) :
    ∃ module ∈ indexed.modules, module.id = declaration.module ∧
      ∀ other ∈ indexed.modules, declaration.id ∈ other.declarations ↔ other = module := by
  obtain ⟨module, hmodule, hid⟩ := h.owned declaration hmem
  refine ⟨module, hmodule, hid, fun other hother ↦ ?_⟩
  rw [h.mem_declarations_iff hother hmem, ← hid]
  constructor
  · exact fun hsame ↦ h.module_unique hother hmodule hsame.symm
  · rintro rfl
    rfl

theorem pairwise_declarations :
    indexed.declarations.Pairwise fun one other ↦ one.id.number < other.id.number :=
  pairwise_of_numbered h.declaration_numbers

theorem pairwise_lists {module : OwningModule} (hmodule : module ∈ indexed.modules) :
    module.declarations.Pairwise fun one other ↦ one.number < other.number := by
  rw [h.lists module hmodule]
  exact List.pairwise_map.2 (h.pairwise_declarations.filter _)

end Consistent
end Indexed

namespace Draft.Holds

variable {draft : Draft} {calls : List Call} (h : draft.Holds calls) (hdraft : draft.Sound)
  {indexed : Indexed} (hindexed : indexed.Consistent) (hbuild : draft.build = .ok indexed.graph)
include h hdraft hindexed hbuild

/-- The accepted declarations are in the collections, under their numbers and as they were
described. -/
theorem exists_describes {index : Nat} {spec : Spec}
    (hspec : (calls.filterMap Call.spec?)[index]? = some spec) :
    ∃ declaration, indexed.declaration? (.ofIndex index) = some declaration ∧
      declaration.id = .ofIndex index ∧ spec.Describes indexed declaration := by
  obtain ⟨hmodules, hsettled, -⟩ := build_eq_ok hbuild
  obtain ⟨module, hmodule, hname, hpending⟩ := h.declarations index spec hspec
  obtain ⟨declaration, hdeclaration, hsettle⟩ := getElem?_of_settleParents hsettled hpending
  obtain ⟨heq, -⟩ := settleParent_eq_ok hsettle rfl
  obtain ⟨houtermost, hnested⟩ := parent_of_settleParent hsettle
  refine ⟨declaration, hdeclaration, by rw [heq]; rfl, ?_⟩
  refine ⟨by rw [heq]; rfl, by rw [heq]; rfl, ?_, by rw [heq]; rfl, by rw [heq]; rfl, ?_, ?_⟩
  · rw [← hmodules] at hmodule
    obtain ⟨owner, howner, rfl⟩ := List.mem_map.1 hmodule
    have hfound := hindexed.module?_eq_some.2 ⟨howner, rfl⟩
    rw [heq]
    show (indexed.module? owner.id).map (·.name) = _
    rw [hfound, Option.map_some, hname]
  · intro hnone
    rw [houtermost (by rw [Spec.pending, hnone]; rfl)]
    rfl
  · intro name hparent
    obtain ⟨accepted, haccepted, hacceptedName, hkind, hdeclared⟩ :=
      hnested (Name.withoutGlobal name) (by rw [Spec.pending, hparent]; rfl)
    -- The name scope is in the collections, settled itself.
    obtain ⟨scope, hscope, rfl⟩ := hdraft.exists_settled hsettled haccepted
    exact ⟨scope.id, scope, (hindexed.byName _ _).2 ⟨scope, hscope, rfl, hacceptedName⟩,
      hindexed.declaration?_eq_some.2 ⟨hscope, rfl⟩, hkind, by rw [hdeclared]⟩

omit hdraft in
/-- The accepted modules are in the collections, under their numbers. -/
theorem exists_module {index : Nat} {name : String} {marks : List Mark}
    (hcall : (calls.filterMap Call.module?)[index]? = some (name, marks)) :
    ∃ module, indexed.module? (.ofIndex index) = some module ∧
      module.toModule = ⟨.ofIndex index, name, marks⟩ := by
  obtain ⟨hmodules, -, -⟩ := build_eq_ok hbuild
  rw [← h.modules, ← hmodules, List.getElem?_map, Option.map_eq_some_iff] at hcall
  obtain ⟨accepted, haccepted, hsaid⟩ := hcall
  rw [Indexed.graph, List.getElem?_map, Option.map_eq_some_iff] at haccepted
  obtain ⟨module, hmodule, rfl⟩ := haccepted
  have hfound : indexed.module? (.ofIndex index) = some module := hmodule
  obtain ⟨-, hid⟩ := hindexed.module?_eq_some.1 hfound
  refine ⟨module, hfound, ?_⟩
  cases hsaid
  rw [← hid]

/-- **The collections of a draft represent what the draft holds.** -/
theorem represents : indexed.Represents calls := by
  obtain ⟨hmodules, hsettled, -⟩ := build_eq_ok hbuild
  have hgraph := hdraft.wellFormed hmodules hsettled
  have hcount : indexed.declarations.length = draft.pending.length := by
    have hmap := hdraft.map_settled hsettled (f := fun _ ↦ ()) fun _ _ ↦ rfl
    simpa [Draft.declarations, Indexed.graph] using congrArg List.length hmap
  exact
    { declaration_count := hcount.trans h.declaration_count
      declarations := fun _ _ ↦ h.exists_describes hdraft hindexed hbuild
      module_count := by
        rw [← h.module_count, ← hmodules]
        exact (List.length_map _).symm
      modules := fun _ _ _ ↦ h.exists_module hindexed hbuild
      lookup := hindexed.lookup_eq_some_iff
      moduleNamed := hindexed.moduleNamed_eq_some_iff
      declaration_names := hindexed.declaration_names
      module_names := hindexed.module_names
      owner := fun _ ↦ hindexed.exists_owner
      lists := fun _ ↦ hindexed.pairwise_lists
      traversal := by
        rw [hindexed.traversal_eq]
        exact hgraph.traversal_perm.map _
      traversal_order := by
        rw [hindexed.traversal_eq, List.pairwise_map]
        refine hgraph.pairwise_traversal.imp_of_mem fun hone hother hprecedes ↦ ?_
        exact ⟨_, _, hindexed.declaration?_eq_some.2 ⟨hgraph.mem_traversal.1 hone, rfl⟩,
          hindexed.declaration?_eq_some.2 ⟨hgraph.mem_traversal.1 hother, rfl⟩, hprecedes⟩
      targets := fun declaration hmem ↦ by rw [hindexed.targets declaration hmem] }

end Draft.Holds

/-! ### What a graph is asked for -/

/-- **Collections store a graph**: what the graph is asked for they answer by what is stored, and
they store no identity but of what the graph has. -/
structure Indexed.Stores (indexed : Indexed) (graph : Graph) : Prop where
  declaration? : ∀ id, indexed.declaration? id = graph.declaration? id
  module? : ∀ id, (indexed.module? id).map (·.toModule) = graph.module? id
  lookup : ∀ name, indexed.lookup name = (graph.lookup name).map (·.id)
  moduleNamed : ∀ name, indexed.moduleNamed name = (graph.moduleNamed name).map (·.id)
  containsModule : ∀ name, indexed.containsModule name = graph.containsModule name
  traversal : indexed.traversal = graph.traversal.map (·.id)
  byName_inRange : ∀ name id, indexed.byName.get? name = some id → id.InRange graph
  moduleByName_inRange : ∀ name id, indexed.moduleByName.get? name = some id → id.InRange graph
  lists_inRange : ∀ module ∈ indexed.modules, ∀ id ∈ module.declarations, id.InRange graph

/-- Collections that agree store their graph. -/
theorem Indexed.Consistent.stores {indexed : Indexed} (h : indexed.Consistent) :
    indexed.Stores indexed.graph := by
  have hdeclared {declaration : Declaration} (hmem : declaration ∈ indexed.declarations) :
      declaration.id.InRange indexed.graph := bounds_of_numbered h.declaration_numbers hmem
  have hmodule {module : OwningModule} (hmem : module ∈ indexed.modules) :
      module.id.InRange indexed.graph := by
    rw [ModuleId.InRange, Indexed.graph, List.length_map]
    exact bounds_of_numbered h.module_numbers hmem
  exact
    { declaration? := fun _ ↦ rfl
      module? := fun id ↦ (nth?_map _ _ id.number).symm
      lookup := h.lookup_eq
      moduleNamed := h.moduleNamed_eq
      containsModule := h.containsModule_eq
      traversal := h.traversal_eq
      byName_inRange := fun name id hfound ↦ by
        obtain ⟨declaration, hmem, rfl, -⟩ := (h.byName name id).1 hfound
        exact hdeclared hmem
      moduleByName_inRange := fun name id hfound ↦ by
        obtain ⟨module, hmem, rfl, -⟩ := (h.moduleByName name id).1 hfound
        exact hmodule hmem
      lists_inRange := fun module hmem id hlisted ↦ by
        rw [h.lists module hmem] at hlisted
        obtain ⟨declaration, hmember, rfl⟩ := List.mem_map.1 hlisted
        exact hdeclared (List.mem_filter.1 hmember).1 }

/-- **A built graph is stored in collections** that a builder has handed over. -/
theorem Built.exists_stored {graph : Graph} (h : graph.Built) :
    ∃ calls indexed, (Builder.empty.callAll calls).build = .ok indexed ∧ indexed.graph = graph ∧
      indexed.Stores graph := by
  obtain ⟨calls, indexed, hbuild, rfl⟩ := built_iff_exists_history.1 h
  have hconsistent := (Builder.agrees_empty.callAll calls).1.consistent_of_build hbuild
  exact ⟨calls, indexed, hbuild, rfl, hconsistent.stores⟩

/-- **A builder keeps its collections in order over any history.** Whatever calls have been made on
an empty builder, its collections agree. A call is accepted next exactly if it fits those accepted
before, and then gives out the next identity, while a rejected one leaves the builder as it was. So
the rejected calls leave no trace, and if the builder can be built, the collections that it hands
over represent the accepted ones. -/
theorem Builder.history_represented (calls : List Call) :
    let builder := Builder.empty.callAll calls
    let kept := Builder.empty.accepted calls
    builder.Consistent ∧
    (∀ one, (∃ identity next, Builder.call one builder = .ok identity next) ↔ one.Fits kept) ∧
    (∀ one identity next, Builder.call one builder = .ok identity next →
      identity = one.identity kept) ∧
    (∀ one fault next, Builder.call one builder = .error fault next → next = builder) ∧
    Builder.empty.callAll kept = builder ∧
    ∀ indexed, builder.build = .ok indexed → indexed.Consistent ∧ indexed.Represents kept := by
  obtain ⟨hagrees, haccepted⟩ := agrees_empty.callAll calls
  have hholds := Draft.Holds.empty.callAll calls
  rw [List.nil_append, ← haccepted] at hholds
  have hsound := (Draft.Reached.empty.callAll calls).sound
  refine ⟨hagrees.consistent, fun one ↦ ?_, fun one identity next hcall ↦ ?_,
    fun _ _ _ ↦ of_call_eq_error, callAll_accepted _ calls, fun indexed hbuild ↦ ?_⟩
  · rw [← hholds.exists_call_eq_ok_iff]
    exact (exists_congr fun _ ↦ hagrees.call_eq_ok_iff).trans exists_comm
  · obtain ⟨_, hdraft⟩ := hagrees.call_eq_ok_iff.1 ⟨next, hcall⟩
    exact (hholds.call hdraft).2
  · have hconsistent := hagrees.consistent_of_build hbuild
    exact ⟨hconsistent, hholds.represents hsound hconsistent
      (hagrees.build.symm.trans (congrArg (Except.map Indexed.graph) hbuild))⟩

/-- A history with three calls that are rejected: a module and a name scope that are there, and an
alias without a target. -/
def Builder.sampleCalls : List Call :=
  [.addModule "core" [], .addDeclaration ⟨"lib::Point", .record, "core", some "::lib", none, []⟩,
    .addModule "core" [⟨"visible", none⟩], .addModule "api" [],
    .addDeclaration ⟨"::lib", .scope, "core", none, none, []⟩,
    .addDeclaration ⟨"lib", .scope, "api", none, none, []⟩,
    .addDeclaration ⟨"api::Spot", .typeAlias, "api", none, none, []⟩,
    .addDeclaration ⟨"api::Spot", .typeAlias, "api", none, some "lib::Point", []⟩]

/-- Of the sample history five calls are accepted. Another module `api` is rejected and a module
`tools` gets the next number; the collections that are handed over represent the five. -/
theorem Builder.sampleCalls_represented :
    let builder := Builder.empty.callAll sampleCalls
    (Builder.empty.accepted sampleCalls).length = 5 ∧
      (∃ fault, Builder.call (.addModule "api" []) builder = .error fault builder) ∧
      (∃ next, Builder.call (.addModule "tools" []) builder = .ok (.module ⟨3⟩) next) ∧
      ∃ indexed, builder.build = .ok indexed ∧ indexed.lookup "::lib::Point" = some ⟨1⟩ ∧
        indexed.Represents (Builder.empty.accepted sampleCalls) := by
  intro builder
  obtain ⟨-, hfits, hnext, hrejected, -, hbuilt⟩ := Builder.history_represented sampleCalls
  refine ⟨rfl, ?_, ?_, _, rfl, rfl, (hbuilt _ rfl).2⟩
  · rcases hcall : Builder.call (.addModule "api" []) builder with ⟨identity, next⟩ | ⟨fault, next⟩
    · exact absurd ((hfits _).1 ⟨identity, next, hcall⟩) (by decide)
    · exact ⟨fault, by rw [hrejected _ fault next hcall]⟩
  · obtain ⟨identity, next, hcall⟩ := (hfits (.addModule "tools" [])).2 (by decide)
    refine ⟨next, ?_⟩
    rw [hcall, hnext _ identity next hcall]
    rfl

end Exposure.Graph
