import Exposure.Json.Basic
import Exposure.Text.Loop

/-!
# Warnings of a run

What a plan is reported with although it is valid.
-/

namespace Exposure

/-- A finding that does not stop a run. -/
inductive Warning where
  /-- Modules that import each other, in run order. -/
  | importCycle (modules : List String)
  /-- A module that imports itself. -/
  | selfImport (module : String)
  /-- An alias that asks for a declaration which is itself hidden. -/
  | aliasToHidden (aliasName target : String)
  deriving DecidableEq, Repr

namespace Warning

/-- The stable code of a warning. -/
def code : Warning → String
  | importCycle .. => "IMPORT_CYCLE"
  | selfImport .. => "SELF_IMPORT"
  | aliasToHidden .. => "ALIAS_TO_HIDDEN"

/-- The wording of a warning. -/
def message : Warning → String
  | importCycle modules => "Import cycle between modules: " ++ Text.loop modules
  | selfImport module => "Module '" ++ module ++ "' imports itself"
  | aliasToHidden aliasName target =>
    "Alias '" ++ aliasName ++ "' exposes '" ++ target ++ "', which is hidden"

/-- The structured form of a warning: its cause under `kind`, then its parts. -/
def toJson : Warning → Json
  | importCycle modules => .obj [("kind", .str "import_cycle"), ("modules", .strings modules)]
  | selfImport module => .obj [("kind", .str "self_import"), ("module", .str module)]
  | aliasToHidden aliasName target =>
    .obj [("kind", .str "alias_to_hidden"), ("alias", .str aliasName), ("target", .str target)]

end Warning

end Exposure
