import Exposure.Graph.Basic
import Exposure.Keyed

/-!
# Graphs with their indexes

The collections that a graph is kept in. Declarations and modules stand in the order of loading,
each module with the identities of what it owns, and two maps lead from names to identities. What a
graph is asked for is read from these collections and nowhere else: `Indexed.lookup` and
`Indexed.moduleNamed` read the maps, `Indexed.traversal` reads the lists of the modules.

That the collections agree with each other is up to whoever fills them
(`Exposure.Graph.Builder`). The graph itself, `Indexed.graph`, is the declarations and the modules.
-/

namespace Exposure.Graph

/-- A module with the identities of the declarations that it owns, in source order. -/
structure OwningModule extends Module where
  declarations : List DeclId
  deriving DecidableEq, Repr

/-- The collections of a graph. -/
structure Indexed where
  modules : List OwningModule
  /-- The identities of modules by name. -/
  moduleByName : Keyed String ModuleId
  declarations : List Declaration
  /-- The identities of declarations by qualified name, without the global marker. -/
  byName : Keyed String DeclId

namespace Indexed

/-- The graph without its indexes. -/
def graph (indexed : Indexed) : Graph :=
  ⟨indexed.declarations, indexed.modules.map (·.toModule)⟩

/-- The declaration at the place of an identity. -/
def declaration? (indexed : Indexed) (id : DeclId) : Option Declaration :=
  nth? indexed.declarations id.number

/-- The module at the place of an identity. -/
def module? (indexed : Indexed) (id : ModuleId) : Option OwningModule :=
  nth? indexed.modules id.number

/-- The identity under a qualified name; a leading global marker is ignored. -/
def lookup (indexed : Indexed) (name : String) : Option DeclId :=
  indexed.byName.get? (Name.withoutGlobal name)

/-- The identity under the name of a module. -/
def moduleNamed (indexed : Indexed) (name : String) : Option ModuleId :=
  indexed.moduleByName.get? name

/-- Whether there is a module under a name. -/
def containsModule (indexed : Indexed) (name : String) : Bool :=
  (indexed.moduleByName.get? name).isSome

/-- All declarations by module, and within a module in source order. -/
def traversal (indexed : Indexed) : List DeclId :=
  indexed.modules.flatMap (·.declarations)

end Indexed

end Exposure.Graph
