import Exposure.Annotation.Basic
import Exposure.Identity
import Exposure.Name

/-!
# Declaration graphs

The declarations and modules of one run, as the front end supplied them and after they were
checked (`Exposure.Graph.Draft`). A graph is never changed afterwards.

Three views of it steer a run:

* `Graph.lookup` finds a declaration by qualified name, with or without the global marker;
* `Graph.traversal` lists all declarations by module, and within a module in source order;
* `Graph.enclosingScopes` lists the name scopes around a declaration, innermost first.
-/

namespace Exposure

/-- A declaration of the run. -/
structure Declaration where
  id : DeclId
  /-- The qualified name without the global marker. -/
  name : String
  kind : Kind
  /-- The module that owns the declaration. -/
  module : ModuleId
  /-- The enclosing name scope, if any. -/
  parent : Option DeclId
  /-- What an alias names, as written. -/
  target : Option String
  marks : List Mark
  deriving DecidableEq, Repr

/-- The name a declaration has within its scope. -/
def Declaration.shortName (declaration : Declaration) : String :=
  Name.short declaration.name

/-- Whether a declaration only names another one. -/
def Declaration.isAlias (declaration : Declaration) : Bool :=
  declaration.kind = .typeAlias

/-- A module of the run, with the marks at its scope. -/
structure Module where
  id : ModuleId
  name : String
  marks : List Mark
  deriving DecidableEq, Repr

/-- The declarations and modules of a run, each in the order of loading. -/
structure Graph where
  declarations : List Declaration
  modules : List Module
  deriving DecidableEq, Repr

namespace Graph

/-- The declaration with an identity. -/
def declaration? (graph : Graph) (id : DeclId) : Option Declaration :=
  nth? graph.declarations id.number

/-- The module with an identity. -/
def module? (graph : Graph) (id : ModuleId) : Option Module :=
  nth? graph.modules id.number

/-- The declaration with a qualified name; a leading global marker is ignored. -/
def lookup (graph : Graph) (name : String) : Option Declaration :=
  graph.declarations.find? fun declaration ↦ declaration.name = Name.withoutGlobal name

/-- The module with a name. -/
def moduleNamed (graph : Graph) (name : String) : Option Module :=
  graph.modules.find? fun module ↦ module.name = name

/-- Whether the run has a module with a name. -/
def containsModule (graph : Graph) (name : String) : Bool :=
  (graph.moduleNamed name).isSome

/-- The name of a declaration, empty for an identity outside the graph. -/
def declarationName (graph : Graph) (id : DeclId) : String :=
  (graph.declaration? id).elim "" (·.name)

/-- The name of a module, empty for an identity outside the graph. -/
def moduleName (graph : Graph) (id : ModuleId) : String :=
  (graph.module? id).elim "" (·.name)

/-- The declarations that a module owns, in source order. -/
def members (graph : Graph) (module : ModuleId) : List Declaration :=
  graph.declarations.filter fun declaration ↦ declaration.module = module

/-- All declarations by module, and within a module in source order. -/
def traversal (graph : Graph) : List Declaration :=
  graph.modules.flatMap fun module ↦ graph.members module.id

/-- The aliases, in the order of loading. -/
def aliases (graph : Graph) : List Declaration :=
  graph.declarations.filter (·.isAlias)

/-- The declarations met by following parents from `next`, at most `steps` of them. -/
def climb (graph : Graph) : (steps : Nat) → (next : Option DeclId) → List Declaration
  | steps + 1, some id =>
    match graph.declaration? id with
    | some declaration => declaration :: climb graph steps declaration.parent
    | none => []
  | _, _ => []

/-- The name scopes around a declaration, innermost first. Parents never loop, so no more
steps are needed than there are declarations. -/
def enclosingScopes (graph : Graph) (declaration : Declaration) : List Declaration :=
  graph.climb graph.declarations.length declaration.parent

end Graph

end Exposure
