import Exposure.Plan.Report
import Exposure.Text.Table

/-!
# Plans on a terminal

The tables that show a report, its problems or its warnings to a user.
-/

namespace Exposure

/-- The words for a way of exposure in a table. -/
def Exposed.display : Exposed → String
  | .direct => "direct"
  | .relocated => "relocated"
  | .forwardedAlias => "via alias"

namespace Report

/-- One row for every entry. -/
def planTable (report : Report) : Table where
  heading :=
    some ["Declaration", "Kind", "External name", "Emitted in", "Exposure", "Forwarded aliases"]
  rows := report.entries.map fun entry ↦
    [entry.declaration, entry.kind.text, entry.externalName, entry.emissionModule,
      entry.exposure.display,
      Text.listing (entry.forwarded.map fun bound ↦ bound.module ++ "::" ++ bound.name)]

/-- The origin of an import, with the alias that makes it necessary. -/
def importOrigin (entry : ImportReport) : String :=
  match entry.via with
  | some via => entry.origin ++ " (" ++ via ++ ")"
  | none => entry.origin

/-- One row for every import of every module. -/
def importTable (report : Report) : Table where
  heading := some ["Module", "Imports", "Origin"]
  rows := report.modules.flatMap fun module ↦
    module.imports.map fun entry ↦ [module.name, entry.module, importOrigin entry]

/-- One line for every relocation, under a title. -/
def relocationLines (report : Report) : String :=
  "\n".intercalate ("Relocations" :: report.relocations.map fun relocation ↦
    "  " ++ relocation.declaration ++ " from " ++ relocation.home ++ " to " ++ relocation.site ++
      " via " ++ relocation.via)

end Report

/-- One row for every problem. -/
def Problem.table (problems : List Problem) : Table where
  heading := some ["Code", "Problem"]
  rows := problems.map fun problem ↦ [problem.code, problem.message]

/-- One row for every warning. -/
def Warning.table (warnings : List Warning) : Table where
  heading := some ["Code", "Warning"]
  rows := warnings.map fun warning ↦ [warning.code, warning.message]

end Exposure
