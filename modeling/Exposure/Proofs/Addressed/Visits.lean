import Exposure.Proofs.Addressed.Chains
import Exposure.Proofs.Graph.Nesting
import Exposure.Proofs.Plan.Visits

/-!
# Visits by identities

A survey that holds nothing but identities: chains are trails, and slots know their targets by
identity. Every visit starts with an identity and goes to the place of the declaration; from there
it goes to the scopes around it, to the target behind it, and to the ledger of its module, each by
identity again.

The survey of a run, seen by identities (`Survey.addressed`), is what these visits come to
(`Addressed.Survey.ofRun_eq`): **no access of any visit is out of range**, whatever problems the
visits meet. The scopes around a declaration end, so that going outward ends as well.
-/

namespace Exposure

namespace Addressed

/-! ### The visits -/

/-- A run to be planned, with its chains by identities. -/
structure Run where
  graph : Graph
  extraction : Extraction
  trails : Keyed DeclId (Except Problem Trail)
  exposesByDefault : Bool

/-- A target that is to be exposed, by identity. -/
structure Slot where
  target : DeclId
  direct : Bool
  hidden : Bool
  requests : List Alias.Request

/-- What the visits have gathered so far. -/
structure Survey where
  slots : List Slot
  aliasTargets : Keyed DeclId DeclId
  ledger : Import.Ledger
  problems : List Problem

/-- The accesses that go with a record: to the ledger it is written to, which a module has as it has
a place, and to what a relocation is told of. -/
def access (graph : Graph) : Import.Record → Option Unit
  | .request module _ | .manual module _ => do
    let _ ← graph.fetchModule? module
  | .reference module emittedIn _ =>
    if module = emittedIn then some () else do
      let _ ← graph.fetchModule? module
  | .relocation relocation => do
    let _ ← graph.fetch? relocation.declaration
    let _ ← graph.fetchModule? relocation.home
    let _ ← graph.fetchModule? relocation.site

/-- Writes a record. -/
def write (graph : Graph) (ledger : Import.Ledger) (record : Import.Record) :
    Option Import.Ledger := do
  access graph record
  return ledger ++ [record]

namespace Run

/-- Whether a declaration's own annotations hide it. -/
def isHidden (run : Run) (id : DeclId) : Bool :=
  (run.extraction.store.get? id).any fun annotations ↦ annotations.standing = .hidden

/-- The exposure inherited at a place, found by going outward until a scope decides one. -/
def inheritedFrom (run : Run) (module : ModuleId) :
    (steps : Nat) → (next : Option DeclId) → Option Bool
  | _, none => some
    (((run.extraction.store.getModule? module).bind (·.standing.decision?)).getD
      run.exposesByDefault)
  | 0, some _ => none
  | steps + 1, some id => do
    let scope ← run.graph.fetch? id
    match (run.extraction.store.get? scope.id).bind (·.standing.decision?) with
    | some visible => return visible
    | none => run.inheritedFrom module steps scope.parent

/-- The exposure a declaration inherits. -/
def inheritedExposure (run : Run) (declaration : Declaration) : Option Bool := do
  let found ← run.graph.fetch? declaration.id
  run.inheritedFrom declaration.module run.graph.declarations.length found.parent

end Run

namespace Survey

/-- Before the first visit. -/
def empty : Survey := ⟨[], .empty, [], []⟩

/-- Adds problems. -/
def report (survey : Survey) (problems : List Problem) : Survey :=
  { survey with problems := survey.problems ++ problems }

/-- Adds the problem of an alias chain, unless it is known. -/
def reportChain (survey : Survey) (problem : Problem) : Survey :=
  if problem ∈ survey.problems then survey else survey.report [problem]

/-- Changes the slot of a target, opening it at the end where there is none. -/
def changeSlot (run : Run) (target : DeclId) (change : Slot → Slot) : List Slot → List Slot
  | [] => [change ⟨target, false, run.isHidden target, []⟩]
  | slot :: rest =>
    if slot.target = target then change slot :: rest
    else slot :: changeSlot run target change rest

/-- Notes that a target is visible itself. -/
def expose (survey : Survey) (run : Run) (target : DeclId) : Survey :=
  { survey with
    slots := changeSlot run target (fun slot ↦ { slot with direct := true }) survey.slots }

/-- Notes the request of an alias for its target. -/
def request (survey : Survey) (run : Run) (target : DeclId) (asked : Alias.Request) : Survey :=
  { survey with
    slots := changeSlot run target
      (fun slot ↦ { slot with requests := slot.requests ++ [asked] }) survey.slots }

/-- Records the imports and the hand-written code of a level of scope. -/
def recordScope (survey : Survey) (graph : Graph) (module : ModuleId) (owner : String)
    (annotations : Annotations) : Option Survey := do
  let ledger ← (annotations.records module owner).foldlM (write graph) survey.ledger
  return { survey with ledger }

/-- The module an alias wants its target emitted in, or the name that no module has. -/
def emissionSite (graph : Graph) (declaration : Declaration) (annotations : Annotations) :
    Except String (Option ModuleId) :=
  match annotations.destination? with
  | none => .ok none
  | some .ownModule => .ok (some declaration.module)
  | some (.named name) =>
    match graph.moduleNamed name with
    | some module => .ok (some module.id)
    | none => .error name

/-- What an alias asks for. -/
def requestOf (run : Run) (declaration : Declaration) (annotations : Annotations)
    (site : Option ModuleId) : Option Alias.Request := do
  let implicit ←
    if annotations.standing = .unset then run.inheritedExposure declaration else some false
  return {
    aliasId := declaration.id
    qualifiedName := declaration.name
    name := declaration.shortName
    module := declaration.module
    forward := annotations.has .visible
    encourage := annotations.has .encourage
    relocateTo := site
    implicit }

/-- Visits an alias whose chain ends at a bindable target. -/
def visitBinding (survey : Survey) (run : Run) (declaration : Declaration)
    (annotations : Annotations) (target : DeclId) : Option Survey :=
  let survey := { survey with aliasTargets := survey.aliasTargets.insert declaration.id target }
  if annotations.standing = .hidden then some survey
  else match emissionSite run.graph declaration annotations with
    | .error name =>
      some (survey.report [.malformedMark declaration.name Directive.exposeHere.text
        ("names unknown module '" ++ name ++ "'")])
    | .ok site => do
      let asked ← requestOf run declaration annotations site
      return if asked.isExplicit || asked.implicit then survey.request run target asked else survey

/-- Visits an alias with its annotations. -/
def visitAlias (survey : Survey) (run : Run) (declaration : Declaration)
    (annotations : Annotations) : Option Survey :=
  if annotations.standing = .conflict then
    some (survey.report [.conflictingVisibility declaration.name])
  else match run.trails.get? declaration.id with
    | some (.ok trail) => do
      let target ← run.graph.fetch? trail.target
      if target.kind.isBindable then
        survey.visitBinding run declaration annotations target.id
      else return survey
    | _ => some survey

/-- Visits a name scope with its annotations. -/
def visitScope (survey : Survey) (run : Run) (declaration : Declaration)
    (annotations : Annotations) : Option Survey :=
  let survey :=
    if annotations.standing = .conflict then
      survey.report [.conflictingVisibility declaration.name]
    else survey
  survey.recordScope run.graph declaration.module declaration.name annotations

/-- Visits a bindable declaration with its annotations. -/
def visitBindable (survey : Survey) (run : Run) (declaration : Declaration)
    (annotations : Annotations) : Option Survey := do
  let survey ← survey.recordScope run.graph declaration.module declaration.name annotations
  match annotations.standing with
  | .visible => return survey.expose run declaration.id
  | .hidden => return survey
  | .unset =>
    return if ← run.inheritedExposure declaration then survey.expose run declaration.id else survey
  | .conflict => return survey.report [.conflictingVisibility declaration.name]

/-- Reports what is known to be wrong with a declaration before its annotations are seen. -/
def reportKnown (survey : Survey) (run : Run) (id : DeclId) : Survey :=
  let survey := survey.report ((run.extraction.declarationProblems.get? id).getD [])
  match run.trails.get? id with
  | some (.error problem) => survey.reportChain problem
  | _ => survey

/-- Visits a declaration. -/
def visit (survey : Survey) (run : Run) (id : DeclId) : Option Survey := do
  let declaration ← run.graph.fetch? id
  let survey := survey.reportKnown run id
  match run.extraction.store.get? id with
  | none => return survey
  | some annotations =>
    match declaration.kind with
    | .scope => survey.visitScope run declaration annotations
    | .typeAlias => survey.visitAlias run declaration annotations
    | .record | .function | .enumeration => survey.visitBindable run declaration annotations

/-- Visits a module's own scope. -/
def visitModule (survey : Survey) (run : Run) (module : Module) : Option Survey :=
  let survey := survey.report ((run.extraction.moduleProblems.get? module.id).getD [])
  match run.extraction.store.getModule? module.id with
  | none => some survey
  | some annotations =>
    let survey :=
      if annotations.standing = .conflict then
        survey.report [.conflictingVisibility module.name]
      else survey
    survey.recordScope run.graph module.id module.name annotations

/-- Visits a module, and then its declarations. -/
def visitWhole (run : Run) (survey : Survey) (module : Module) : Option Survey := do
  ((run.graph.members module.id).map (·.id)).foldlM (fun survey id ↦ survey.visit run id)
    (← survey.visitModule run module)

/-- Visits a whole run in traversal order. -/
def ofRun (run : Run) : Option Survey := run.graph.modules.foldlM (visitWhole run) .empty

end Survey
end Addressed

/-! ### Runs and surveys by identities -/

/-- A run, with its chains by identities. -/
def Run.addressed (run : Run) : Addressed.Run :=
  ⟨run.graph, run.extraction, run.chains.map (Except.map Alias.Chain.trail), run.exposesByDefault⟩

/-- A slot, by the identity of its target. -/
def Slot.addressed (slot : Slot) : Addressed.Slot :=
  ⟨slot.target.id, slot.direct, slot.hidden, slot.requests⟩

/-- A survey, by identities. -/
def Survey.addressed (survey : Survey) : Addressed.Survey :=
  ⟨survey.slots.map Slot.addressed, survey.aliasTargets, survey.ledger, survey.problems⟩

namespace Survey

theorem addressed_reportChain (survey : Survey) (problem : Problem) :
    (survey.reportChain problem).addressed = survey.addressed.reportChain problem := by
  rw [reportChain, Addressed.Survey.reportChain]
  exact apply_ite ..

/-- A slot is changed by identities as it is changed. -/
theorem map_addressed_changeSlot (run : Run) (target : Declaration) {change : Slot → Slot}
    {change' : Addressed.Slot → Addressed.Slot}
    (hchange : ∀ slot : Slot, (change slot).addressed = change' slot.addressed)
    (slots : List Slot) :
    (changeSlot run target change slots).map Slot.addressed =
      Addressed.Survey.changeSlot run.addressed target.id change' (slots.map Slot.addressed) := by
  induction slots with
  | nil =>
    rw [changeSlot, List.map_singleton, hchange]
    rfl
  | cons slot rest ih =>
    rw [changeSlot, List.map_cons, Addressed.Survey.changeSlot, Slot.addressed]
    split
    · rw [List.map_cons, hchange]
      rfl
    · rw [List.map_cons, ih]
      rfl

theorem addressed_expose (survey : Survey) (run : Run) (target : Declaration) :
    (survey.expose run target).addressed = survey.addressed.expose run.addressed target.id :=
  congrArg (Addressed.Survey.mk · _ _ _)
    (map_addressed_changeSlot run target (fun _ ↦ rfl) survey.slots)

theorem addressed_request (survey : Survey) (run : Run) (target : Declaration)
    (asked : Alias.Request) :
    (survey.request run target asked).addressed =
      survey.addressed.request run.addressed target.id asked :=
  congrArg (Addressed.Survey.mk · _ _ _)
    (map_addressed_changeSlot run target (fun _ ↦ rfl) survey.slots)

theorem addressed_reportKnown (survey : Survey) (run : Run) (declaration : Declaration) :
    (survey.reportKnown run declaration).addressed =
      survey.addressed.reportKnown run.addressed declaration.id := by
  have htrail : run.addressed.trails.get? declaration.id =
      (run.chains.get? declaration.id).map (Except.map Alias.Chain.trail) :=
    Keyed.get?_map _ _ _
  rw [reportKnown, Addressed.Survey.reportKnown, htrail]
  rcases run.chains.get? declaration.id with - | (problem | chain)
  · rfl
  · exact addressed_reportChain _ _
  · rfl

end Survey

/-! ### Records in range -/

/-- All identities of a relocation are in range. -/
structure Import.Relocation.InRange (graph : Graph) (relocation : Import.Relocation) : Prop where
  declaration : relocation.declaration.InRange graph
  home : relocation.home.InRange graph
  site : relocation.site.InRange graph
  via : relocation.via.InRange graph

/-- All identities of a record are in range. -/
def Import.Record.InRange (graph : Graph) : Import.Record → Prop
  | .request module _ | .manual module _ => module.InRange graph
  | .reference module emittedIn via =>
    module.InRange graph ∧ emittedIn.InRange graph ∧ via.InRange graph
  | .relocation moved => moved.InRange graph

/-- The records of a level of scope are about its module. -/
theorem Annotations.inRange_records {graph : Graph} {module : ModuleId}
    (hmodule : module.InRange graph) (owner : String) (annotations : Annotations) :
    ∀ record ∈ annotations.records module owner, record.InRange graph := by
  intro record hrecord
  rcases List.mem_append.1 hrecord with hrecord | hrecord <;>
    obtain ⟨-, -, rfl⟩ := List.mem_map.1 hrecord <;> exact hmodule

namespace Addressed

variable {graph : Graph}

/-- What goes with a record that is in range is accessed. -/
theorem access_eq (hfits : graph.FitsWords) {record : Import.Record}
    (hrecord : record.InRange graph) : access graph record = some () := by
  cases record with
  | request module target =>
    obtain ⟨found, hfound, -⟩ := hfits.exists_fetchModule? hrecord
    rw [access, hfound]
    rfl
  | manual module block =>
    obtain ⟨found, hfound, -⟩ := hfits.exists_fetchModule? hrecord
    rw [access, hfound]
    rfl
  | reference module emittedIn via =>
    obtain ⟨found, hfound, -⟩ := hfits.exists_fetchModule? hrecord.1
    rw [access, hfound]
    exact ite_self _
  | relocation relocation =>
    obtain ⟨declaration, hdeclaration, -⟩ :=
      hfits.exists_fetch? (Import.Relocation.InRange.declaration hrecord)
    obtain ⟨home, hhome, -⟩ := hfits.exists_fetchModule? (Import.Relocation.InRange.home hrecord)
    obtain ⟨site, hsite, -⟩ := hfits.exists_fetchModule? (Import.Relocation.InRange.site hrecord)
    rw [access, hdeclaration, hhome, hsite]
    rfl

/-- **Records in range are written**, one after the other. -/
theorem writeAll_eq (hfits : graph.FitsWords) {records : List Import.Record}
    (hrecords : ∀ record ∈ records, record.InRange graph) (ledger : Import.Ledger) :
    records.foldlM (write graph) ledger = some (ledger ++ records) := by
  induction records generalizing ledger with
  | nil => rw [List.append_nil]; rfl
  | cons record records ih =>
    obtain ⟨hfirst, hrest⟩ := List.forall_mem_cons.1 hrecords
    rw [List.foldlM_cons, write, access_eq hfits hfirst]
    exact (ih hrest _).trans (by rw [List.append_assoc]; rfl)

/-! ### The accesses of the visits -/

/-- **Going outward ends**, and at what the scopes around a place decide. By induction on the
scopes, of which there are not more than steps. -/
theorem inheritedFrom_eq (run : Exposure.Run) (hfits : run.graph.FitsWords) (module : ModuleId)
    {next : Option DeclId} {scopes : List Declaration} (hnested : run.graph.Nested next scopes)
    {steps : Nat} (hsteps : scopes.length ≤ steps) :
    run.addressed.inheritedFrom module steps next =
      some ((((scopes.filterMap fun scope ↦ run.extraction.store.get? scope.id) ++
        (run.extraction.store.getModule? module).toList).findSome?
          (·.standing.decision?)).getD run.exposesByDefault) := by
  induction hnested generalizing steps with
  | top =>
    have hmodule : (run.extraction.store.getModule? module).toList.findSome?
        (·.standing.decision?) =
          (run.extraction.store.getModule? module).bind (·.standing.decision?) := by
      cases run.extraction.store.getModule? module <;> simp
    rw [List.filterMap_nil, List.nil_append, hmodule]
    cases steps <;> rfl
  | @inside id scope scopes found outer ih =>
    obtain ⟨steps, rfl⟩ : ∃ left, steps = left + 1 :=
      Nat.exists_eq_add_one.2 (Nat.lt_of_lt_of_le (Nat.succ_pos _) hsteps)
    have hfetch : run.addressed.graph.fetch? id = some scope := hfits.fetch?_of_declaration? found
    rw [Run.inheritedFrom, hfetch, Option.bind_eq_bind, Option.bind_some,
      ih (Nat.le_of_succ_le_succ hsteps), List.filterMap_cons]
    change (match (run.extraction.store.get? scope.id).bind (·.standing.decision?) with
      | some visible => some visible
      | none => _) = _
    rcases run.extraction.store.get? scope.id with - | annotations
    · rfl
    · rw [Option.bind_some, List.cons_append, List.findSome?_cons]
      cases annotations.standing.decision? <;> rfl

end Addressed

/-- A run whose accesses are in range: its graph is built and fits the words, and its chains end at
declarations of the graph. -/
structure Run.Addressable (run : Run) : Prop where
  built : run.graph.Built
  fits : run.graph.FitsWords
  targets : ∀ id chain, run.chains.get? id = some (.ok chain) →
    chain.target ∈ run.graph.declarations

/-- The run of a built graph that fits the words is one. -/
theorem Graph.Built.addressable {graph : Graph} (hgraph : graph.Built) (hfits : graph.FitsWords)
    (depth : Nat) (byDefault : Bool) : (Run.ofGraph graph depth byDefault).Addressable where
  built := hgraph
  fits := hfits
  targets := by
    intro id chain hchain
    obtain ⟨start, hstart, -, -, hresolve⟩ :=
      (Alias.get?_resolveEach_eq_some hgraph.wellFormed depth (.refl _)).1 hchain
    exact (Alias.target_of_resolve hstart hresolve).1

namespace Run.Addressable

variable {run : Run} (h : run.Addressable) (survey : Survey) {declaration : Declaration}
  (hmem : declaration ∈ run.graph.declarations) (annotations : Annotations)
include h

omit h in
theorem get?_trails (run : Run) (id : DeclId) :
    run.addressed.trails.get? id = (run.chains.get? id).map (Except.map Alias.Chain.trail) :=
  Keyed.get?_map _ _ _

theorem fetch?_of_mem (hmem : declaration ∈ run.graph.declarations) :
    run.addressed.graph.fetch? declaration.id = some declaration :=
  h.fits.fetch?_of_mem h.built.wellFormed hmem

theorem recordScope {module : ModuleId} (hmodule : module.InRange run.graph) (owner : String) :
    survey.addressed.recordScope run.addressed.graph module owner annotations =
      some (survey.recordScope module owner annotations).addressed := by
  have hrecords := annotations.inRange_records hmodule owner
  have hwrite : (annotations.records module owner).foldlM (Addressed.write run.addressed.graph)
      survey.addressed.ledger = some (survey.recordScope module owner annotations).ledger := by
    rw [Survey.ledger_recordScope]
    exact Addressed.writeAll_eq h.fits hrecords survey.ledger
  rw [Addressed.Survey.recordScope, hwrite]
  rfl

include hmem

/-- **No access on the way to an inherited exposure is out of range.** -/
theorem inheritedExposure :
    run.addressed.inheritedExposure declaration = some (run.inheritedExposure declaration) := by
  have hnested := h.built.nested_enclosingScopes hmem
  rw [Addressed.Run.inheritedExposure, h.fetch?_of_mem hmem]
  exact Addressed.inheritedFrom_eq run h.fits _ hnested (hnested.length_le h.built.wellFormed)

theorem requestOf (site : Option ModuleId) :
    Addressed.Survey.requestOf run.addressed declaration annotations site =
      some (Survey.requestOf run declaration annotations site) := by
  rw [Addressed.Survey.requestOf, Survey.requestOf, h.inheritedExposure hmem]
  split
  · rename_i hunset
    rw [decide_eq_true hunset, Bool.true_and]
    rfl
  · rename_i hset
    rw [decide_eq_false hset, Bool.false_and]
    rfl

theorem visitBinding (target : Declaration) :
    survey.addressed.visitBinding run.addressed declaration annotations target.id =
      some (survey.visitBinding run declaration annotations target).addressed := by
  have hsite : Addressed.Survey.emissionSite run.addressed.graph declaration annotations =
      Survey.emissionSite run declaration annotations := rfl
  rw [Addressed.Survey.visitBinding, Survey.visitBinding, hsite]
  split
  · rfl
  · rcases Survey.emissionSite run declaration annotations with name | site
    · rfl
    · dsimp only
      rw [h.requestOf hmem annotations site, Option.bind_eq_bind, Option.bind_some,
        apply_ite Survey.addressed, Survey.addressed_request]
      rfl

theorem visitAlias :
    survey.addressed.visitAlias run.addressed declaration annotations =
      some (survey.visitAlias run declaration annotations).addressed := by
  rw [Addressed.Survey.visitAlias, Survey.visitAlias, get?_trails]
  split
  · rfl
  · rcases hchain : run.chains.get? declaration.id with - | (problem | chain)
    · rfl
    · rfl
    · have hfetch : run.addressed.graph.fetch? chain.trail.target = some chain.target :=
        h.fetch?_of_mem (h.targets _ _ hchain)
      dsimp only [Option.map_some, Except.map]
      rw [hfetch, Option.bind_eq_bind, Option.bind_some, h.visitBinding survey hmem,
        apply_ite Survey.addressed]
      exact (apply_ite some ..).symm

theorem visitScope :
    survey.addressed.visitScope run.addressed declaration annotations =
      some (survey.visitScope declaration annotations).addressed := by
  have howner := h.built.wellFormed.inRange_owner hmem
  rw [Addressed.Survey.visitScope, Survey.visitScope]
  split
  · exact h.recordScope (survey.report _) annotations howner _
  · exact h.recordScope survey annotations howner _

theorem visitBindable :
    survey.addressed.visitBindable run.addressed declaration annotations =
      some (survey.visitBindable run declaration annotations).addressed := by
  have howner := h.built.wellFormed.inRange_owner hmem
  rw [Addressed.Survey.visitBindable, Survey.visitBindable,
    h.recordScope survey annotations howner, Option.bind_eq_bind, Option.bind_some]
  cases annotations.standing with
  | visible => exact congrArg some (Survey.addressed_expose _ run declaration).symm
  | hidden => rfl
  | unset =>
    dsimp only
    rw [h.inheritedExposure hmem, Option.bind_eq_bind, Option.bind_some, apply_ite Survey.addressed,
      Survey.addressed_expose]
    rfl
  | conflict => rfl

/-- **No access of a visit is out of range.** -/
theorem visit :
    survey.addressed.visit run.addressed declaration.id =
      some (survey.visit run declaration).addressed := by
  rw [Addressed.Survey.visit, Survey.visit, h.fetch?_of_mem hmem, Option.bind_eq_bind,
    Option.bind_some, ← Survey.addressed_reportKnown]
  change (match run.extraction.store.get? declaration.id with
    | none => _
    | some annotations => _) = _
  rcases run.extraction.store.get? declaration.id with - | annotations
  · rfl
  · cases hkind : declaration.kind with
    | scope => exact h.visitScope _ hmem annotations
    | typeAlias => exact h.visitAlias _ hmem annotations
    | record | function | enumeration => exact h.visitBindable _ hmem annotations

omit hmem

theorem visitModule {module : Module} (hmodule : module ∈ run.graph.modules) :
    survey.addressed.visitModule run.addressed module =
      some (survey.visitModule run module).addressed := by
  have hrange := h.built.wellFormed.inRange_module hmodule
  rw [Addressed.Survey.visitModule, Survey.visitModule]
  change (match run.extraction.store.getModule? module.id with
    | none => _
    | some annotations => _) = _
  rcases run.extraction.store.getModule? module.id with - | annotations
  · rfl
  · dsimp only
    split
    · exact h.recordScope ((survey.report _).report _) annotations hrange module.name
    · exact h.recordScope (survey.report _) annotations hrange module.name

/-- **No access of the visits of a run is out of range**, and what they come to is the survey of the
run. -/
theorem ofRun : Addressed.Survey.ofRun run.addressed = some (Survey.ofRun run).addressed := by
  refine Addressed.foldlM_eq_some Survey.addressed (fun survey module hmodule ↦ ?_) .empty
  rw [Addressed.Survey.visitWhole, h.visitModule survey hmodule, Option.bind_eq_bind,
    Option.bind_some, List.foldlM_map]
  exact Addressed.foldlM_eq_some Survey.addressed (fun survey declaration hmem ↦
    h.visit survey (List.mem_filter.1 hmem).1) _

end Run.Addressable
end Exposure
