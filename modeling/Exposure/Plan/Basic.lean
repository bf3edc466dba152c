import Exposure.Import.Ledger
import Exposure.Keyed

/-!
# Exposure plans

What a run comes to when nothing is wrong with it: which declarations are bound, in which
generated module, under which names, and what each generated module imports. A plan is never
changed.
-/

namespace Exposure

/-- How a declaration comes to be exposed. -/
inductive Exposed where
  /-- It is visible itself and emitted at home. -/
  | direct
  /-- An alias moved it into another module. -/
  | relocated
  /-- Only aliases ask for it. -/
  | forwardedAlias
  deriving DecidableEq, Repr

/-- The word for a way of exposure in structured output. -/
def Exposed.text : Exposed → String
  | direct => "direct"
  | relocated => "relocated"
  | forwardedAlias => "forwarded_alias"

/-- An alias that is bound as a name of its own. -/
structure ForwardedAlias where
  aliasId : DeclId
  module : ModuleId
  name : String
  deriving DecidableEq, Repr

/-- A declaration that is bound. -/
structure PlanEntry where
  /-- The declaration; it is no alias. -/
  canonical : DeclId
  qualifiedName : String
  kind : Kind
  homeModule : ModuleId
  emissionModule : ModuleId
  externalName : String
  exposure : Exposed
  /-- The alias whose name was chosen, if it was one. -/
  namedBy : Option DeclId
  forwarded : List ForwardedAlias
  deriving DecidableEq, Repr

/-- Whether an entry is emitted away from home. -/
def PlanEntry.isRelocated (entry : PlanEntry) : Bool := entry.exposure = .relocated

/-- A generated module. -/
structure ModulePlan where
  id : ModuleId
  name : String
  /-- The generated modules to import, in this order. -/
  imports : List Import.Entry
  manualBlocks : List Import.ManualBlock
  deriving DecidableEq, Repr

/-- An exposure plan. -/
structure Plan where
  /-- The bound declarations, in the order of their first exposure. -/
  entries : List PlanEntry
  /-- The declarations behind the aliases of bindable targets. -/
  aliasTargets : Keyed DeclId DeclId
  modules : List ModulePlan
  relocations : List Import.Relocation
  warnings : List Warning

namespace Plan

/-- The entry of a declaration that is no alias. -/
def entryOf? (plan : Plan) (id : DeclId) : Option PlanEntry :=
  plan.entries.find? fun entry ↦ entry.canonical = id

/-- The entry with a qualified name; a leading global marker is ignored. -/
def entryNamed (plan : Plan) (name : String) : Option PlanEntry :=
  plan.entries.find? fun entry ↦ entry.qualifiedName = Name.withoutGlobal name

/-- The entry that any declaration comes to: its own, or that of the target behind it. -/
def lookup (plan : Plan) (id : DeclId) : Option PlanEntry :=
  (plan.entryOf? id).or ((plan.aliasTargets.get? id).bind plan.entryOf?)

/-- The generated module with an identity. -/
def module? (plan : Plan) (id : ModuleId) : Option ModulePlan :=
  nth? plan.modules id.number

/-- The generated module with a name. -/
def moduleNamed (plan : Plan) (name : String) : Option ModulePlan :=
  plan.modules.find? fun module ↦ module.name = name

/-- The imports of a generated module. -/
def importsOf (plan : Plan) (id : ModuleId) : List Import.Entry :=
  (plan.module? id).elim [] (·.imports)

/-- The entries that a generated module emits. -/
def emittedIn (plan : Plan) (id : ModuleId) : List PlanEntry :=
  plan.entries.filter fun entry ↦ entry.emissionModule = id

end Plan

end Exposure
