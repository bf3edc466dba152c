import Exposure.Proofs.Document.Interleaving
import Exposure.Proofs.Plan.Mirrors
import Exposure.Plan.Report

/-!
# Plans of renumbered graphs

What a run reports does not depend on how the declarations of different modules are interleaved in
its document (`Document.interleaving_irrelevant`). Interleaved documents come to renumbered graphs,
the surveys of these mirror each other, and deciding a slot hands numbers on but looks at them only
to tell an alias from another (`Slot.verdict_renumber`). So the plans mirror each other too
(`Plan.Mirrors`), and a report, which shows names for numbers, is the same for both
(`Report.ofPlan_eq`).

Where there is no plan the problems are alike one by one (`Run.forall₂_alike_problems`). They need
not be the same: a cycle of aliases is told from the member that was accepted first, and this may be
another one.
-/

namespace Exposure

/-! ### Names -/

namespace Alias

/-- The source of a name with its alias renumbered. -/
def NameSource.renumber (ρ : DeclId → DeclId) : NameSource → NameSource
  | encouraged aliasId => encouraged (ρ aliasId)
  | relocation aliasId => relocation (ρ aliasId)
  | target => target
  | forwarded aliasId => forwarded (ρ aliasId)
  | promoted aliasId => promoted (ρ aliasId)

/-- A chosen name with its alias renumbered. -/
def NameChoice.renumber (ρ : DeclId → DeclId) (choice : NameChoice) : NameChoice :=
  { choice with source := choice.source.renumber ρ }

theorem NameSource.aliasId?_renumber (ρ : DeclId → DeclId) (source : NameSource) :
    (source.renumber ρ).aliasId? = source.aliasId?.map ρ := by
  cases source <;> rfl

/-- **The same name is chosen**, from the same request. -/
theorem chooseName_renumber (ρ : DeclId → DeclId) (targetName targetShortName : String)
    (direct : Bool) (requests : List Request) :
    chooseName targetName targetShortName direct (requests.map (·.renumber ρ)) =
      (chooseName targetName targetShortName direct requests).map
        (Option.map (·.renumber ρ)) := by
  have hfind (p : Request → Bool) (hp : p ∘ Request.renumber ρ = p) :
      (requests.map (·.renumber ρ)).find? p = (requests.find? p).map (·.renumber ρ) := by
    rw [List.find?_map, hp]
  have hfilter : (requests.map (·.renumber ρ)).filter (·.encourage) =
      (requests.filter (·.encourage)).map (·.renumber ρ) := by
    rw [List.filter_map]
    rfl
  unfold chooseName
  rw [hfilter, hfind (·.relocateTo.isSome) rfl, hfind (·.forward) rfl, hfind (·.implicit) rfl]
  generalize requests.filter (·.encourage) = encouraged
  generalize requests.find? (·.relocateTo.isSome) = moving
  generalize requests.find? (·.forward) = bound
  generalize requests.find? (·.implicit) = open?
  rcases encouraged with - | ⟨request, - | ⟨second, rest⟩⟩
  · rcases moving with - | request
    · cases direct with
      | true => rfl
      | false => rcases bound with - | request <;> rcases open? with - | request <;> rfl
    · rfl
  · rfl
  · show Except.error (Problem.ambiguousEncouragement targetName
      (List.map (·.qualifiedName) (List.map (·.renumber ρ) (request :: second :: rest)))) = _
    rw [List.map_map]
    rfl

end Alias

/-! ### Verdicts -/

/-- A bound alias with its number changed. -/
def ForwardedAlias.renumber (ρ : DeclId → DeclId) (bound : ForwardedAlias) : ForwardedAlias :=
  { bound with aliasId := ρ bound.aliasId }

/-- An entry with its declarations renumbered. -/
def PlanEntry.renumber (ρ : DeclId → DeclId) (entry : PlanEntry) : PlanEntry :=
  { entry with
    canonical := ρ entry.canonical
    namedBy := entry.namedBy.map ρ
    forwarded := entry.forwarded.map (·.renumber ρ) }

/-- A verdict with its declarations renumbered. -/
def Verdict.renumber (ρ : DeclId → DeclId) : Verdict → Verdict
  | hidden warnings => hidden warnings
  | nameless => nameless
  | rejected problem => rejected problem
  | emitted entry records => emitted (entry.renumber ρ) (records.map (·.renumber ρ))

namespace Verdict

variable (ρ : DeclId → DeclId) (verdict : Verdict)

theorem warnings_renumber : (verdict.renumber ρ).warnings = verdict.warnings := by
  cases verdict <;> rfl

theorem problem?_renumber : (verdict.renumber ρ).problem? = verdict.problem? := by
  cases verdict <;> rfl

theorem planned?_renumber :
    (verdict.renumber ρ).planned? = verdict.planned?.map (·.renumber ρ) := by
  cases verdict <;> rfl

theorem records_renumber :
    (verdict.renumber ρ).records = verdict.records.map (·.renumber ρ) := by
  cases verdict <;> rfl

end Verdict

namespace Slot

variable {ρ : DeclId → DeclId} (slot : Slot)

/-- The same sites are asked for, through the same aliases. -/
theorem sites_renumber : (slot.renumber ρ).sites = slot.sites.map (Prod.map id ρ) := by
  have hasked : ((slot.renumber ρ).requests.filterMap fun request ↦
      request.relocateTo.map fun site ↦ (site, request.aliasId)) =
        (slot.requests.filterMap fun request ↦
          request.relocateTo.map fun site ↦ (site, request.aliasId)).map (Prod.map id ρ) := by
    rw [renumber, List.filterMap_map, List.map_filterMap]
    refine List.filterMap_congr fun request _ ↦ ?_
    rw [Option.map_map]
    rfl
  unfold sites
  dsimp only
  rw [hasked]
  generalize (slot.requests.filterMap fun request ↦
    request.relocateTo.map fun site ↦ (site, request.aliasId)) = asked
  have hsites : (asked.map (Prod.map id ρ)).map (·.1) = asked.map (·.1) := List.map_map
  rw [hsites, List.map_filterMap]
  exact List.filterMap_congr fun site _ ↦ List.find?_map

variable (hinjective : Function.Injective ρ)
include hinjective

/-- An alias gave the name exactly if it did under the other number. -/
theorem map_eq_some_renumber {namedBy : Option DeclId} {id : DeclId} :
    namedBy.map ρ = some (ρ id) ↔ namedBy = some id :=
  (Option.map_injective hinjective).eq_iff (a := namedBy) (b := some id)

theorem forwarded_renumber (namedBy : Option DeclId) :
    (slot.renumber ρ).forwarded (namedBy.map ρ) =
      (slot.forwarded namedBy).map (·.renumber ρ) := by
  rw [forwarded, forwarded, renumber, List.filter_map, List.map_map, List.map_map]
  refine congrArg (List.map _) (List.filter_congr fun request _ ↦ ?_)
  exact congrArg (request.forward && ·)
    (decide_eq_decide.2 (not_congr (map_eq_some_renumber hinjective)))

theorem references_renumber (namedBy : Option DeclId) (emissionModule : ModuleId) :
    (slot.renumber ρ).references (namedBy.map ρ) emissionModule =
      (slot.references namedBy emissionModule).map (·.renumber ρ) := by
  rw [references, references, renumber, List.filter_map, List.map_map, List.map_map]
  refine congrArg (List.map _) (List.filter_congr fun request _ ↦ ?_)
  exact congrArg (request.forward || ·) (decide_eq_decide.2 (map_eq_some_renumber hinjective))

/-- **What is emitted is renumbered.** -/
theorem emit_renumber (choice : Alias.NameChoice) (relocation : Option (ModuleId × DeclId)) :
    (slot.renumber ρ).emit (choice.renumber ρ) (relocation.map (Prod.map id ρ)) =
      (slot.emit choice relocation).renumber ρ := by
  have hnamed : (choice.renumber ρ).source.aliasId? = choice.source.aliasId?.map ρ :=
    choice.source.aliasId?_renumber ρ
  unfold emit
  dsimp only
  rw [hnamed, forwarded_renumber slot hinjective]
  rcases relocation with - | ⟨site, via⟩
  · exact congrArg (Verdict.emitted _) (references_renumber slot hinjective _ _)
  · refine congrArg (Verdict.emitted _) (congrArg (List.cons _) ?_)
    exact references_renumber slot hinjective _ _

omit hinjective in
/-- **Deciding a renumbered slot gives the verdict renumbered.** -/
theorem verdict_renumber {graph graph' : Graph} (h : Graph.Renumbered ρ graph graph') :
    (slot.renumber ρ).verdict graph' = (slot.verdict graph).renumber ρ := by
  unfold verdict
  by_cases hhidden : slot.hidden = true
  · rw [if_pos hhidden, if_pos (show (slot.renumber ρ).hidden = true from hhidden), renumber,
      List.filter_map, List.map_map]
    rfl
  · rw [if_neg hhidden, if_neg (show ¬ (slot.renumber ρ).hidden = true from hhidden),
      sites_renumber]
    -- Names are chosen by rank and place, never by number.
    have hname : Alias.chooseName (slot.renumber ρ).target.name (slot.renumber ρ).target.shortName
        (slot.renumber ρ).direct (slot.renumber ρ).requests =
          (Alias.chooseName slot.target.name slot.target.shortName slot.direct slot.requests).map
            (Option.map (·.renumber ρ)) :=
      Alias.chooseName_renumber ρ _ _ _ _
    rw [hname]
    rcases Alias.chooseName slot.target.name slot.target.shortName slot.direct slot.requests with
      problem | - | choice
    · rfl
    · rfl
    · rcases slot.sites with - | ⟨⟨site, via⟩, - | ⟨second, rest⟩⟩
      · exact emit_renumber slot h.injective choice none
      · refine Eq.trans (congrArg (emit _ _) ?_) (emit_renumber slot h.injective choice _)
        show Option.filter (fun asked ↦ decide (asked.1 ≠ slot.target.module))
            (some (Prod.map id ρ (site, via))) =
          Option.map (Prod.map id ρ)
            (Option.filter (fun asked ↦ decide (asked.1 ≠ slot.target.module)) (some (site, via)))
        by_cases haway : site ≠ slot.target.module <;> simp [Option.filter_some, haway]
      · -- Two sites or more are a problem, which names them and has no numbers.
        have hsites (asked : List (ModuleId × DeclId)) :
            (asked.map (Prod.map id ρ)).map (fun one ↦ graph'.moduleName one.1) =
              asked.map fun one ↦ graph.moduleName one.1 := by
          rw [List.map_map, funext h.moduleName_eq]
          rfl
        exact congrArg (fun names ↦ Verdict.rejected (.duplicateEmission slot.target.name names))
          (hsites ((site, via) :: second :: rest))

end Slot

/-! ### Plans -/

namespace Survey.Mirrors

variable {ρ : DeclId → DeclId} {graph graph' : Graph} (h : Graph.Renumbered ρ graph graph')
  {survey survey' : Survey} (hsurvey : Mirrors ρ survey survey')
include h hsurvey

theorem verdicts_eq :
    survey'.verdicts graph' = (survey.verdicts graph).map (·.renumber ρ) := by
  rw [verdicts, verdicts, hsurvey.slots, List.map_map, List.map_map]
  exact List.map_congr_left fun slot _ ↦ slot.verdict_renumber h

theorem fullLedger_eq :
    survey'.fullLedger graph' = (survey.fullLedger graph).renumber ρ := by
  rw [fullLedger, fullLedger, hsurvey.ledger, hsurvey.verdicts_eq h,
    Import.Ledger.renumber_append, List.flatMap_map]
  refine congrArg (survey.ledger.renumber ρ ++ ·) ?_
  rw [Import.Ledger.renumber, List.map_flatMap]
  exact List.flatMap_congr fun verdict _ ↦ verdict.records_renumber ρ

theorem problem?_verdicts_eq :
    (survey'.verdicts graph').filterMap (·.problem?) =
      (survey.verdicts graph).filterMap (·.problem?) := by
  rw [hsurvey.verdicts_eq h, List.filterMap_map]
  exact List.filterMap_congr fun verdict _ ↦ verdict.problem?_renumber ρ

end Survey.Mirrors

/-- **Plans that mirror each other**: the same but for the numbers of declarations. -/
structure Plan.Mirrors (ρ : DeclId → DeclId) (plan plan' : Plan) : Prop where
  entries : plan'.entries = plan.entries.map (·.renumber ρ)
  modules : plan'.modules = plan.modules.map fun module ↦
    { module with imports := module.imports.map (·.renumber ρ) }
  relocations : plan'.relocations = plan.relocations.map (·.renumber ρ)
  warnings : plan'.warnings = plan.warnings

/-- **Plans of mirrored surveys mirror each other.** -/
theorem Plan.mirrors_of_ofSurvey {ρ : DeclId → DeclId} {graph graph' : Graph}
    (h : Graph.Renumbered ρ graph graph') {survey survey' : Survey}
    (hsurvey : survey.Mirrors ρ survey') {plan plan' : Plan}
    (hplan : ofSurvey graph survey = .ok plan) (hplan' : ofSurvey graph' survey' = .ok plan') :
    plan.Mirrors ρ plan' := by
  have hcomes := comesTo_of_ofSurvey hplan
  have hcomes' := comesTo_of_ofSurvey hplan'
  have hledger := hsurvey.fullLedger_eq h
  have hverdicts := hsurvey.verdicts_eq h
  constructor
  · rw [hcomes'.entries, hcomes.entries, hverdicts, List.filterMap_map, List.map_filterMap]
    exact List.filterMap_congr fun verdict _ ↦ verdict.planned?_renumber ρ
  · rw [hcomes'.modules, hcomes.modules, h.modules, hledger, List.map_map]
    refine List.map_congr_left fun module _ ↦ ?_
    rw [Import.Ledger.importList_renumber _ h, Import.Ledger.manualBlocks_renumber]
    rfl
  · rw [hcomes'.relocations, hcomes.relocations, hledger, Import.Ledger.relocations_renumber]
  · rw [hcomes'.warnings, hcomes.warnings, hledger, Import.Ledger.settle_renumber _ h, hverdicts,
      List.flatMap_map]
    exact congrArg (· ++ _) (List.flatMap_congr fun verdict _ ↦ verdict.warnings_renumber ρ)

/-! ### Reports -/

namespace Report

variable {ρ : DeclId → DeclId} {graph graph' : Graph} (h : Graph.Renumbered ρ graph graph')
include h

theorem ofEntry_renumber (entry : PlanEntry) :
    ofEntry graph' (entry.renumber ρ) = ofEntry graph entry := by
  unfold ofEntry PlanEntry.renumber
  dsimp only
  rw [Option.map_map, List.map_map, funext h.moduleName_eq]
  simp only [Function.comp_def, ForwardedAlias.renumber, h.declarationName_eq]

theorem ofImport_renumber (entry : Import.Entry) :
    ofImport graph' (entry.renumber ρ) = ofImport graph entry := by
  obtain ⟨module, origin⟩ := entry
  cases origin with
  | explicit =>
    show (⟨graph'.moduleName module, "explicit", none⟩ : ImportReport) =
      ⟨graph.moduleName module, "explicit", none⟩
    rw [h.moduleName_eq]
  | inferred via =>
    show (⟨graph'.moduleName module, "inferred", some (graph'.declarationName (ρ via))⟩ :
      ImportReport) = ⟨graph.moduleName module, "inferred", some (graph.declarationName via)⟩
    rw [h.moduleName_eq, h.declarationName_eq]

theorem ofRelocation_renumber (relocation : Import.Relocation) :
    ofRelocation graph' (relocation.renumber ρ) = ofRelocation graph relocation := by
  unfold ofRelocation Import.Relocation.renumber
  simp only [h.moduleName_eq, h.declarationName_eq]

/-- **The reports of plans that mirror each other are equal**: a report has names for numbers. -/
theorem ofPlan_eq {plan plan' : Plan} (hplan : plan.Mirrors ρ plan') :
    ofPlan graph' plan' = ofPlan graph plan := by
  have hemitted (id : ModuleId) : (plan'.emittedIn id).length = (plan.emittedIn id).length := by
    rw [Plan.emittedIn, Plan.emittedIn, hplan.entries, List.filter_map, List.length_map]
    rfl
  unfold ofPlan
  rw [hplan.entries, hplan.modules, hplan.relocations, hplan.warnings, List.map_map, List.map_map,
    List.map_map, Report.mk.injEq]
  refine ⟨List.map_congr_left fun entry _ ↦ ofEntry_renumber h entry,
    List.map_congr_left fun module _ ↦ ?_,
    List.map_congr_left fun relocation _ ↦ ofRelocation_renumber h relocation, rfl⟩
  show ofModule graph' plan' { module with imports := module.imports.map (·.renumber ρ) } = _
  unfold ofModule
  dsimp only
  rw [hemitted, List.map_map]
  refine congrArg (fun imports ↦ (⟨_, imports, _, _⟩ : ModuleReport)) ?_
  exact List.map_congr_left fun entry _ ↦ ofImport_renumber h entry

end Report

/-! ### Runs -/

namespace Run

/-- A run comes to a plan exactly if it reports no problem. -/
theorem exists_plan_iff_problems_eq_nil {run : Run} :
    (∃ plan, run.plan = .ok plan) ↔ run.problems = [] := by
  rw [problems_eq]
  exact Plan.exists_ofSurvey_eq_ok.trans Survey.clean_iff

theorem problems_of_plan_eq_error {run : Run} {problems : List Problem}
    (h : run.plan = .error problems) : run.problems = problems := by
  rw [Run.problems, h]

variable {ρ : DeclId → DeclId} {graph graph' : Graph} (h : Graph.Renumbered ρ graph graph')
  (hgraph : graph.WellFormed) (hgraph' : graph'.WellFormed) (depth : Nat) (byDefault : Bool)
include h hgraph hgraph'

/-- **The problems of renumbered runs are alike one by one.** -/
theorem forall₂_alike_problems :
    List.Forall₂ Problem.Alike (Run.ofGraph graph depth byDefault).problems
      (Run.ofGraph graph' depth byDefault).problems := by
  have hsurvey := Survey.Mirrors.ofRun h hgraph hgraph' depth byDefault
  have halike (problems : List Problem) : List.Forall₂ Problem.Alike problems problems :=
    List.forall₂_same.2 fun problem _ ↦ .same problem
  rw [problems_eq, problems_eq, graph_ofGraph, graph_ofGraph, hsurvey.problem?_verdicts_eq h,
    hsurvey.fullLedger_eq h, Import.Ledger.settle_renumber _ h]
  exact List.rel_append (List.rel_append hsurvey.problems (halike _)) (halike _)

/-- **Both renumbered runs come to a plan or neither does.** -/
theorem exists_plan_iff_of_renumbered :
    (∃ plan, (Run.ofGraph graph depth byDefault).plan = .ok plan) ↔
      ∃ plan, (Run.ofGraph graph' depth byDefault).plan = .ok plan := by
  have hlength := (forall₂_alike_problems h hgraph hgraph' depth byDefault).length_eq
  rw [exists_plan_iff_problems_eq_nil, exists_plan_iff_problems_eq_nil,
    ← List.length_eq_zero_iff, ← List.length_eq_zero_iff, hlength]

/-- **The reports of renumbered runs are equal.** -/
theorem report_eq {plan plan' : Plan} (hplan : (Run.ofGraph graph depth byDefault).plan = .ok plan)
    (hplan' : (Run.ofGraph graph' depth byDefault).plan = .ok plan') :
    Report.ofPlan graph plan = Report.ofPlan graph' plan' :=
  (Report.ofPlan_eq h (Plan.mirrors_of_ofSurvey h
    (Survey.Mirrors.ofRun h hgraph hgraph' depth byDefault) hplan hplan')).symm

end Run

/-- **How the declarations of different modules are interleaved in a document is irrelevant.** If
each module has the same records in the same order then both documents have graphs or neither; then
both runs come to plans or neither; the reports of the plans are equal; and if there are no plans
the problems are equal one by one, but that a cycle of aliases may be told from another member. -/
theorem Document.interleaving_irrelevant {document other : Document}
    (h : document.Interleaves other) :
    ((∃ graph, document.toGraph = .ok graph) ↔ ∃ graph, other.toGraph = .ok graph) ∧
    ∀ graph graph', document.toGraph = .ok graph → other.toGraph = .ok graph' →
      ∀ depth byDefault,
        let run := Run.ofGraph graph depth byDefault
        let run' := Run.ofGraph graph' depth byDefault
        ((∃ plan, run.plan = .ok plan) ↔ ∃ plan, run'.plan = .ok plan) ∧
        (∀ plan plan', run.plan = .ok plan → run'.plan = .ok plan' →
          Report.ofPlan graph plan = Report.ofPlan graph' plan') ∧
        ∀ problems problems', run.plan = .error problems → run'.plan = .error problems' →
          List.Forall₂ Problem.Alike problems problems' := by
  refine ⟨⟨fun ⟨graph, hgraph⟩ ↦ ?_, fun ⟨graph, hgraph⟩ ↦ ?_⟩,
    fun graph graph' htoGraph htoGraph' depth byDefault ↦ ?_⟩
  · obtain ⟨graph', hgraph', -⟩ := h.exists_renumbered hgraph
    exact ⟨graph', hgraph'⟩
  · obtain ⟨graph', hgraph', -⟩ := h.symm.exists_renumbered hgraph
    exact ⟨graph', hgraph'⟩
  · have hgraph := (built_of_toGraph htoGraph).wellFormed
    have hgraph' := (built_of_toGraph htoGraph').wellFormed
    obtain ⟨found, hfound, hrenumbered⟩ := h.exists_renumbered htoGraph
    obtain rfl : found = graph' := Except.ok.inj (hfound.symm.trans htoGraph')
    refine ⟨Run.exists_plan_iff_of_renumbered hrenumbered hgraph hgraph' depth byDefault,
      fun plan plan' hplan hplan' ↦
        Run.report_eq hrenumbered hgraph hgraph' depth byDefault hplan hplan',
      fun problems problems' herror herror' ↦ ?_⟩
    rw [← Run.problems_of_plan_eq_error herror, ← Run.problems_of_plan_eq_error herror']
    exact Run.forall₂_alike_problems hrenumbered hgraph hgraph' depth byDefault

/-- The sample with other records between those of its library. -/
def Document.mixedSample : Document where
  modules := sample.modules
  declarations :=
    [⟨"tools::Dot", "alias", "tools", none, some "api::Spot", [⟨"visible", none⟩]⟩,
     ⟨"lib", "namespace", "core", none, none, [⟨"visible", none⟩]⟩,
     ⟨"api::Spot", "alias", "api", none, some "lib::Point",
       [⟨"visible", none⟩, ⟨"expose_here", none⟩]⟩,
     ⟨"lib::Point", "struct", "core", some "lib", none, []⟩,
     ⟨"lib::secret", "function", "core", some "lib", none, [⟨"hidden", none⟩]⟩]

/-- The graph of the mixed sample. -/
def Document.mixedSampleGraph : Graph where
  modules := sampleGraph.modules
  declarations :=
    [⟨⟨1⟩, "tools::Dot", .typeAlias, ⟨3⟩, none, some "api::Spot", [⟨"visible", none⟩]⟩,
     ⟨⟨2⟩, "lib", .scope, ⟨1⟩, none, none, [⟨"visible", none⟩]⟩,
     ⟨⟨3⟩, "api::Spot", .typeAlias, ⟨2⟩, none, some "lib::Point",
       [⟨"visible", none⟩, ⟨"expose_here", none⟩]⟩,
     ⟨⟨4⟩, "lib::Point", .record, ⟨1⟩, some ⟨2⟩, none, []⟩,
     ⟨⟨5⟩, "lib::secret", .function, ⟨1⟩, some ⟨2⟩, none, [⟨"hidden", none⟩]⟩]

theorem Document.sample_interleaves : sample.Interleaves mixedSample where
  modules := rfl
  records name := by
    by_cases hcore : "core" = name
    · subst hcore
      rfl
    · by_cases hapi : "api" = name
      · subst hapi
        rfl
      · simp [sample, mixedSample, List.filter_cons, hcore, hapi]

/-- The point of the sample has another number in the mixed sample, but the reports are equal. -/
theorem Document.mixedSample_report :
    ∃ plan plan', (Run.ofGraph sampleGraph 64 false).plan = .ok plan ∧
      (Run.ofGraph mixedSampleGraph 64 false).plan = .ok plan' ∧
      plan.entries.map (·.canonical) = [⟨2⟩] ∧ plan'.entries.map (·.canonical) = [⟨4⟩] ∧
      Report.ofPlan sampleGraph plan = Report.ofPlan mixedSampleGraph plan' := by
  obtain ⟨plan, hplan⟩ : ∃ plan, (Run.ofGraph sampleGraph 64 false).plan = .ok plan := ⟨_, rfl⟩
  obtain ⟨plan', hplan'⟩ : ∃ plan, (Run.ofGraph mixedSampleGraph 64 false).plan = .ok plan :=
    ⟨_, rfl⟩
  have hgraph : sample.toGraph = .ok sampleGraph := rfl
  have hgraph' : mixedSample.toGraph = .ok mixedSampleGraph := rfl
  obtain ⟨-, hruns⟩ := interleaving_irrelevant sample_interleaves
  obtain ⟨-, hreports, -⟩ := hruns _ _ hgraph hgraph' 64 false
  refine ⟨plan, plan', hplan, hplan', ?_, ?_, hreports plan plan' hplan hplan'⟩
  · cases hplan
    rfl
  · cases hplan'
    rfl

/-- A cycle through two modules is told from whichever member comes first. -/
example :
    let there : DeclarationRecord := ⟨"there", "alias", "core", none, some "back", []⟩
    let back : DeclarationRecord := ⟨"back", "alias", "api", none, some "there", []⟩
    let problems := fun records ↦
      (Document.toGraph ⟨[⟨"core", []⟩, ⟨"api", []⟩], records⟩).toOption.map fun graph ↦
        (Run.ofGraph graph 64 false).problems
    problems [there, back] = some [.cyclicAlias ["there", "back"]] ∧
      problems [back, there] = some [.cyclicAlias ["back", "there"]] := by
  decide +kernel

end Exposure
