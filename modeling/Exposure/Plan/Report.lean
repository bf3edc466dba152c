import Exposure.Plan.Basic

/-!
# Plan reports

A report shows a plan by name: every identity is replaced by the name the graph has for it.
Entries, modules and relocations keep the order of the plan, and each module counts what it
emits.
-/

namespace Exposure

/-- A binding of an alias, by name. -/
structure ForwardedReport where
  aliasName : String
  module : String
  name : String
  deriving DecidableEq, Repr

/-- A bound declaration, by name. -/
structure EntryReport where
  declaration : String
  kind : Kind
  externalName : String
  exposure : Exposed
  homeModule : String
  emissionModule : String
  namedBy : Option String
  forwarded : List ForwardedReport
  deriving DecidableEq, Repr

/-- An import, by name. -/
structure ImportReport where
  module : String
  /-- The word for the origin. -/
  origin : String
  /-- The alias that makes an inferred import necessary. -/
  via : Option String
  deriving DecidableEq, Repr

/-- A generated module, with the numbers of its blocks of hand-written code and of the
entries it emits. -/
structure ModuleReport where
  name : String
  imports : List ImportReport
  manualBlocks : Nat
  emitted : Nat
  deriving DecidableEq, Repr

/-- A relocation, by name. -/
structure RelocationReport where
  declaration : String
  home : String
  site : String
  via : String
  deriving DecidableEq, Repr

/-- A plan, by name. -/
structure Report where
  entries : List EntryReport
  modules : List ModuleReport
  relocations : List RelocationReport
  warnings : List Warning
  deriving DecidableEq, Repr

namespace Report

/-- An entry, by name. -/
def ofEntry (graph : Graph) (entry : PlanEntry) : EntryReport where
  declaration := entry.qualifiedName
  kind := entry.kind
  externalName := entry.externalName
  exposure := entry.exposure
  homeModule := graph.moduleName entry.homeModule
  emissionModule := graph.moduleName entry.emissionModule
  namedBy := entry.namedBy.map graph.declarationName
  forwarded := entry.forwarded.map fun bound ↦
    ⟨graph.declarationName bound.aliasId, graph.moduleName bound.module, bound.name⟩

/-- An import, by name. -/
def ofImport (graph : Graph) (entry : Import.Entry) : ImportReport :=
  match entry.origin with
  | .explicit => ⟨graph.moduleName entry.module, "explicit", none⟩
  | .inferred via =>
    ⟨graph.moduleName entry.module, "inferred", some (graph.declarationName via)⟩

/-- A generated module of a plan, by name. -/
def ofModule (graph : Graph) (plan : Plan) (module : ModulePlan) : ModuleReport where
  name := module.name
  imports := module.imports.map (ofImport graph)
  manualBlocks := module.manualBlocks.length
  emitted := (plan.emittedIn module.id).length

/-- A relocation, by name. -/
def ofRelocation (graph : Graph) (relocation : Import.Relocation) : RelocationReport where
  declaration := graph.declarationName relocation.declaration
  home := graph.moduleName relocation.home
  site := graph.moduleName relocation.site
  via := graph.declarationName relocation.via

/-- The report of a plan. -/
def ofPlan (graph : Graph) (plan : Plan) : Report where
  entries := plan.entries.map (ofEntry graph)
  modules := plan.modules.map (ofModule graph plan)
  relocations := plan.relocations.map (ofRelocation graph)
  warnings := plan.warnings

end Report

/-- The structured form of a bound alias. -/
def ForwardedReport.toJson (bound : ForwardedReport) : Json :=
  .obj [("alias", .str bound.aliasName), ("module", .str bound.module), ("name", .str bound.name)]

/-- The structured form of an entry; a missing name giver and an empty list of bound aliases
are left out. -/
def EntryReport.toJson (entry : EntryReport) : Json :=
  let namedBy := (entry.namedBy.map fun name ↦ ("named_by", Json.str name)).toList
  let forwarded :=
    if entry.forwarded.isEmpty then []
    else [("forwarded", Json.arr (entry.forwarded.map ForwardedReport.toJson))]
  .obj ([("declaration", .str entry.declaration), ("kind", .str entry.kind.text),
      ("external_name", .str entry.externalName), ("exposure", .str entry.exposure.text),
      ("home_module", .str entry.homeModule), ("emission_module", .str entry.emissionModule)] ++
    namedBy ++ forwarded)

/-- The structured form of an import. -/
def ImportReport.toJson (entry : ImportReport) : Json :=
  .obj ([("module", .str entry.module), ("origin", .str entry.origin)] ++
    (entry.via.map fun name ↦ ("via", Json.str name)).toList)

/-- The structured form of a generated module. -/
def ModuleReport.toJson (module : ModuleReport) : Json :=
  .obj [("name", .str module.name), ("imports", .arr (module.imports.map ImportReport.toJson)),
    ("manual_blocks", .num module.manualBlocks), ("emitted", .num module.emitted)]

/-- The structured form of a relocation. -/
def RelocationReport.toJson (relocation : RelocationReport) : Json :=
  .obj [("declaration", .str relocation.declaration), ("home", .str relocation.home),
    ("site", .str relocation.site), ("via", .str relocation.via)]

/-- The structured form of a report. -/
def Report.toJson (report : Report) : Json :=
  .obj [("entries", .arr (report.entries.map EntryReport.toJson)),
    ("modules", .arr (report.modules.map ModuleReport.toJson)),
    ("relocations", .arr (report.relocations.map RelocationReport.toJson)),
    ("warnings", .arr (report.warnings.map Warning.toJson))]

end Exposure
