import Exposure.Plan.Survey

/-!
# Deciding a plan

Each slot of a survey is decided on its own. A hidden target is never emitted, and aliases
that ask for it explicitly earn a warning each. Otherwise the target needs a name and at most
one emission site; then it becomes an entry, with the records that follow from it: its
relocation, if it leaves home, and a reference for every alias that is bound to it.

When all slots are decided the ledger is settled. A plan exists exactly if no problem came up
anywhere, and otherwise **all** problems are reported: first those of the visits, then those
of the slots, then those of the ledger.
-/

namespace Exposure

/-- What deciding a slot gives. -/
inductive Verdict where
  /-- The target is hidden; these warnings remain. -/
  | hidden (warnings : List Warning)
  /-- Nobody gives the target a name. -/
  | nameless
  /-- The target cannot be emitted. -/
  | rejected (problem : Problem)
  /-- The target is emitted, and these records follow. -/
  | emitted (entry : PlanEntry) (records : List Import.Record)

namespace Verdict

/-- The warnings of a verdict. -/
def warnings : Verdict → List Warning
  | hidden warnings => warnings
  | _ => []

/-- The problem of a verdict. -/
def problem? : Verdict → Option Problem
  | rejected problem => some problem
  | _ => none

/-- The entry of a verdict. -/
def planned? : Verdict → Option PlanEntry
  | emitted entry _ => some entry
  | _ => none

/-- The records of a verdict. -/
def records : Verdict → List Import.Record
  | emitted _ records => records
  | _ => []

end Verdict

namespace Slot

/-- The emission sites asked for, each with the first alias that asks for it. -/
def sites (slot : Slot) : List (ModuleId × DeclId) :=
  let asked := slot.requests.filterMap fun request ↦
    request.relocateTo.map fun site ↦ (site, request.aliasId)
  (asked.map (·.1)).eraseDups.filterMap fun site ↦ asked.find? (·.1 = site)

/-- The aliases that are bound beside the one that gave the name. -/
def forwarded (slot : Slot) (namedBy : Option DeclId) : List ForwardedAlias :=
  (slot.requests.filter fun request ↦ request.forward && namedBy ≠ some request.aliasId).map
    fun request ↦ ⟨request.aliasId, request.module, request.name⟩

/-- The references of the aliases that are bound to what a module emits. -/
def references (slot : Slot) (namedBy : Option DeclId) (emissionModule : ModuleId) :
    List Import.Record :=
  (slot.requests.filter fun request ↦ request.forward || namedBy = some request.aliasId).map
    fun request ↦ .reference request.module emissionModule request.aliasId

/-- The entry of a slot and the records that follow from it, once its name is chosen and its
relocation known. -/
def emit (slot : Slot) (choice : Alias.NameChoice) (relocation : Option (ModuleId × DeclId)) :
    Verdict :=
  let target := slot.target
  let namedBy := choice.source.aliasId?
  let emissionModule := (relocation.map (·.1)).getD target.module
  .emitted
    { canonical := target.id
      qualifiedName := target.name
      kind := target.kind
      homeModule := target.module
      emissionModule
      externalName := choice.externalName
      exposure :=
        if relocation.isSome then .relocated
        else if slot.direct then .direct
        else .forwardedAlias
      namedBy
      forwarded := slot.forwarded namedBy }
    ((relocation.map fun (site, via) ↦
        Import.Record.relocation ⟨target.id, target.module, site, via⟩).toList ++
      slot.references namedBy emissionModule)

/-- Decides a slot. -/
def verdict (graph : Graph) (slot : Slot) : Verdict :=
  if slot.hidden then
    .hidden ((slot.requests.filter (·.isExplicit)).map fun request ↦
      .aliasToHidden request.qualifiedName slot.target.name)
  else match Alias.chooseName slot.target.name slot.target.shortName slot.direct slot.requests with
    | .error problem => .rejected problem
    | .ok none => .nameless
    | .ok (some choice) =>
      match slot.sites with
      | first :: second :: rest =>
        .rejected (.duplicateEmission slot.target.name
          ((first :: second :: rest).map fun (site, _) ↦ graph.moduleName site))
      | sites => slot.emit choice (sites.head?.filter fun (site, _) ↦ site ≠ slot.target.module)

end Slot

namespace Plan

/-- The plan that a survey comes to, or all problems of the run. -/
def ofSurvey (graph : Graph) (survey : Survey) : Except (List Problem) Plan :=
  let verdicts := survey.slots.map (·.verdict graph)
  let settlement := Import.Ledger.settle graph (survey.ledger ++ verdicts.flatMap (·.records))
  match survey.problems ++ verdicts.filterMap (·.problem?) ++ settlement.problems with
  | [] =>
    .ok
      { entries := verdicts.filterMap (·.planned?)
        aliasTargets := survey.aliasTargets
        modules := graph.modules.zipWith
          (fun module imports ↦ ⟨module.id, module.name, imports.imports, imports.manualBlocks⟩)
          settlement.modules
        relocations := settlement.relocations
        warnings := verdicts.flatMap (·.warnings) ++ settlement.warnings }
  | problems => .error problems

end Plan

/-- The run of a graph: all marks read and all alias chains walked. -/
def Run.ofGraph (graph : Graph) (maxAliasDepth : Nat) (exposesByDefault : Bool) : Run where
  graph
  extraction := .ofGraph graph
  chains := Alias.resolveAll graph maxAliasDepth
  exposesByDefault

/-- Plans a run. -/
def Run.plan (run : Run) : Except (List Problem) Plan :=
  Plan.ofSurvey run.graph (.ofRun run)

end Exposure
