import Exposure.Alias.Chain
import Exposure.Alias.Naming
import Exposure.Annotation.Extraction
import Exposure.Plan.Basic

/-!
# Surveying a run

A survey goes over the modules and declarations of a run, one visit each, and gathers what
the plan is decided from: for every target somebody wants exposed a **slot** with the requests
for it, the records about imports, and the problems met on the way. Slots keep the order of
the first exposure.

A visit reports the problems of the marks and of the alias chain first. Where the marks do not
read nothing else is gathered; where exposure and hiding conflict an alias gathers nothing and
any other declaration no exposure.
-/

namespace Exposure

/-- A run to be planned: the graph, what its marks and alias chains came to, and whether a
declaration is exposed that nothing says anything about. -/
structure Run where
  graph : Graph
  extraction : Extraction
  chains : Alias.Resolutions
  exposesByDefault : Bool

/-- A target that is to be exposed. -/
structure Slot where
  target : Declaration
  /-- The target is visible itself. -/
  direct : Bool
  /-- The target's own annotations hide it. -/
  hidden : Bool
  /-- The requests of aliases, in the order of the visits. -/
  requests : List Alias.Request

/-- What the visits have gathered so far. -/
structure Survey where
  /-- The slots, in the order of the first exposure. -/
  slots : List Slot
  /-- The declarations behind the aliases of bindable targets. -/
  aliasTargets : Keyed DeclId DeclId
  ledger : Import.Ledger
  problems : List Problem

/-- The exposure that a level of scope decides, if it decides one. -/
def Standing.decision? : Standing → Option Bool
  | visible => some true
  | hidden => some false
  | unset | conflict => none

namespace Run

/-- The exposure a declaration inherits: the nearest name scope around it that decides one,
else the scope of its own module, else the default. Levels whose marks do not read, and
levels in conflict, decide nothing. -/
def inheritedExposure (run : Run) (declaration : Declaration) : Bool :=
  let scopes := (run.graph.enclosingScopes declaration).filterMap fun scope ↦
    run.extraction.store.get? scope.id
  let levels := scopes ++ (run.extraction.store.getModule? declaration.module).toList
  (levels.findSome? fun annotations ↦ annotations.standing.decision?).getD run.exposesByDefault

/-- Whether a declaration's own annotations hide it. -/
def isHidden (run : Run) (declaration : Declaration) : Bool :=
  (run.extraction.store.get? declaration.id).any fun annotations ↦
    annotations.standing = .hidden

end Run

namespace Survey

/-- Before the first visit. -/
def empty : Survey := ⟨[], .empty, [], []⟩

/-- Adds problems. -/
def report (survey : Survey) (problems : List Problem) : Survey :=
  { survey with problems := survey.problems ++ problems }

/-- Adds the problem of an alias chain, unless it is known: all walks into one cycle report
the same. -/
def reportChain (survey : Survey) (problem : Problem) : Survey :=
  if problem ∈ survey.problems then survey else survey.report [problem]

/-- Changes the slot of a target, opening it at the end where there is none. -/
def changeSlot (run : Run) (target : Declaration) (change : Slot → Slot) :
    List Slot → List Slot
  | [] => [change ⟨target, false, run.isHidden target, []⟩]
  | slot :: rest =>
    if slot.target.id = target.id then change slot :: rest
    else slot :: changeSlot run target change rest

/-- Notes that a target is visible itself. -/
def expose (survey : Survey) (run : Run) (target : Declaration) : Survey :=
  { survey with
    slots := changeSlot run target (fun slot ↦ { slot with direct := true }) survey.slots }

/-- Notes the request of an alias for its target. -/
def request (survey : Survey) (run : Run) (target : Declaration) (asked : Alias.Request) :
    Survey :=
  { survey with
    slots := changeSlot run target
      (fun slot ↦ { slot with requests := slot.requests ++ [asked] }) survey.slots }

/-- Records the imports and the hand-written code of a level of scope. -/
def recordScope (survey : Survey) (module : ModuleId) (owner : String)
    (annotations : Annotations) : Survey :=
  { survey with
    ledger := survey.ledger ++ annotations.imports.map (.request module) ++
      annotations.manualBlocks.map fun code ↦ .manual module (.ofCode owner code) }

/-- The module an alias wants its target emitted in, or the name that no module has. -/
def emissionSite (run : Run) (declaration : Declaration) (annotations : Annotations) :
    Except String (Option ModuleId) :=
  match annotations.destination? with
  | none => .ok none
  | some .ownModule => .ok (some declaration.module)
  | some (.named name) =>
    match run.graph.moduleNamed name with
    | some module => .ok (some module.id)
    | none => .error name

/-- What an alias asks for, given where it wants its target emitted. -/
def requestOf (run : Run) (declaration : Declaration) (annotations : Annotations)
    (site : Option ModuleId) : Alias.Request where
  aliasId := declaration.id
  qualifiedName := declaration.name
  name := declaration.shortName
  module := declaration.module
  forward := annotations.has .visible
  encourage := annotations.has .encourage
  relocateTo := site
  implicit := annotations.standing = .unset && run.inheritedExposure declaration

/-- Visits an alias whose chain ends at a bindable target. -/
def visitBinding (survey : Survey) (run : Run) (declaration : Declaration)
    (annotations : Annotations) (target : Declaration) : Survey :=
  let survey :=
    { survey with aliasTargets := survey.aliasTargets.insert declaration.id target.id }
  if annotations.standing = .hidden then survey
  else match emissionSite run declaration annotations with
    | .error name =>
      survey.report [.malformedMark declaration.name Directive.exposeHere.text
        ("names unknown module '" ++ name ++ "'")]
    | .ok site =>
      let asked := requestOf run declaration annotations site
      if asked.isExplicit || asked.implicit then survey.request run target asked else survey

/-- Visits an alias with its annotations. -/
def visitAlias (survey : Survey) (run : Run) (declaration : Declaration)
    (annotations : Annotations) : Survey :=
  if annotations.standing = .conflict then
    survey.report [.conflictingVisibility declaration.name]
  else match run.chains.get? declaration.id with
    | some (.ok chain) =>
      if chain.target.kind.isBindable then
        survey.visitBinding run declaration annotations chain.target
      else survey
    | _ => survey

/-- Visits a name scope with its annotations. -/
def visitScope (survey : Survey) (declaration : Declaration) (annotations : Annotations) :
    Survey :=
  let survey :=
    if annotations.standing = .conflict then
      survey.report [.conflictingVisibility declaration.name]
    else survey
  survey.recordScope declaration.module declaration.name annotations

/-- Visits a bindable declaration with its annotations: its own standing decides about its
exposure, and where that is unset its surroundings do. -/
def visitBindable (survey : Survey) (run : Run) (declaration : Declaration)
    (annotations : Annotations) : Survey :=
  let survey := survey.recordScope declaration.module declaration.name annotations
  match annotations.standing with
  | .visible => survey.expose run declaration
  | .hidden => survey
  | .unset =>
    if run.inheritedExposure declaration then survey.expose run declaration else survey
  | .conflict => survey.report [.conflictingVisibility declaration.name]

/-- Reports what is known to be wrong with a declaration before its annotations are seen. -/
def reportKnown (survey : Survey) (run : Run) (declaration : Declaration) : Survey :=
  let survey :=
    survey.report ((run.extraction.declarationProblems.get? declaration.id).getD [])
  match run.chains.get? declaration.id with
  | some (.error problem) => survey.reportChain problem
  | _ => survey

/-- Visits a declaration. -/
def visit (survey : Survey) (run : Run) (declaration : Declaration) : Survey :=
  let survey := survey.reportKnown run declaration
  match run.extraction.store.get? declaration.id with
  | none => survey
  | some annotations =>
    match declaration.kind with
    | .scope => survey.visitScope declaration annotations
    | .typeAlias => survey.visitAlias run declaration annotations
    | .record | .function | .enumeration => survey.visitBindable run declaration annotations

/-- Visits a module's own scope. -/
def visitModule (survey : Survey) (run : Run) (module : Module) : Survey :=
  let survey := survey.report ((run.extraction.moduleProblems.get? module.id).getD [])
  match run.extraction.store.getModule? module.id with
  | none => survey
  | some annotations =>
    let survey :=
      if annotations.standing = .conflict then
        survey.report [.conflictingVisibility module.name]
      else survey
    survey.recordScope module.id module.name annotations

/-- Visits a whole run in traversal order: each module, and then its declarations. -/
def ofRun (run : Run) : Survey :=
  run.graph.modules.foldl
    (fun survey module ↦
      (run.graph.members module.id).foldl (fun survey declaration ↦ survey.visit run declaration)
        (survey.visitModule run module))
    empty

end Survey

end Exposure
