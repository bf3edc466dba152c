import Exposure.Graph.Basic
import Exposure.Graph.Fault

/-!
# Drafts of graphs

What loading a graph comes to, told without the collections that a graph is kept in
(`Exposure.Graph.Builder` has these). A draft collects modules and declarations one by one and
checks each against what it already holds; an addition answers with a new draft. Parents are settled
at the end (`Draft.build`), so a declaration may come before the name scope around it.

The last check is that parent chains end. Chains are followed declaration by declaration, and
what an earlier chain has settled is not followed again.
-/

namespace Exposure.Graph

/-- What the front end says about a declaration. -/
structure Spec where
  name : String
  kind : Kind
  /-- The name of the owning module. -/
  module : String
  /-- The name of the enclosing name scope. -/
  parent : Option String
  target : Option String
  marks : List Mark
  deriving DecidableEq, Repr

/-- A declaration that was accepted while the scope around it is known by name only. -/
structure Pending where
  /-- The declaration, still without a parent. -/
  declaration : Declaration
  parentName : Option String
  deriving DecidableEq, Repr

/-- Modules and declarations accepted so far. -/
structure Draft where
  modules : List Module
  pending : List Pending
  deriving DecidableEq, Repr

namespace Draft

/-- The draft to start from. -/
def empty : Draft := ⟨[], []⟩

/-- The accepted declarations. -/
def declarations (draft : Draft) : List Declaration := draft.pending.map (·.declaration)

/-- The accepted module with a name. -/
def moduleNamed (draft : Draft) (name : String) : Option Module :=
  draft.modules.find? fun module ↦ module.name = name

/-- Adds a module; its name must be new. -/
def addModule (draft : Draft) (name : String) (marks : List Mark) :
    Except Fault (Draft × ModuleId) :=
  if (draft.moduleNamed name).isSome then .error (.duplicateModule name)
  else
    let id := ModuleId.ofIndex draft.modules.length
    .ok (⟨draft.modules ++ [⟨id, name, marks⟩], draft.pending⟩, id)

/-- An alias must name a target and nothing else may. -/
def checkTarget (name : String) (kind : Kind) (target : Option String) : Except Fault Unit :=
  match kind, target with
  | .typeAlias, none => .error (.missingAliasTarget name)
  | .typeAlias, some _ => .ok ()
  | _, some _ => .error (.unexpectedAliasTarget name)
  | _, none => .ok ()

/-- Adds a declaration. Its name without the global marker must be new, its module known, and
its target fit its kind; the first check that fails decides. -/
def addDeclaration (draft : Draft) (spec : Spec) : Except Fault (Draft × DeclId) :=
  let name := Name.withoutGlobal spec.name
  if draft.declarations.any fun declaration ↦ declaration.name = name then
    .error (.duplicateDeclaration name)
  else match draft.moduleNamed spec.module with
    | none => .error (.unknownModule name spec.module)
    | some module =>
      match checkTarget name spec.kind spec.target with
      | .error fault => .error fault
      | .ok () =>
        let id := DeclId.ofIndex draft.pending.length
        let declaration : Declaration :=
          ⟨id, name, spec.kind, module.id, none, spec.target, spec.marks⟩
        .ok (⟨draft.modules, draft.pending ++
          [⟨declaration, spec.parent.map Name.withoutGlobal⟩]⟩, id)

/-- Settles the parent of one declaration: it must be a name scope among the accepted. -/
def settleParent (accepted : List Declaration) (pending : Pending) :
    Except Fault Declaration :=
  match pending.parentName with
  | none => .ok pending.declaration
  | some parentName =>
    match accepted.find? fun declaration ↦ declaration.name = parentName with
    | none => .error (.unknownParent pending.declaration.name parentName)
    | some parent =>
      if parent.kind = .scope then .ok { pending.declaration with parent := some parent.id }
      else .error (.parentNotScope pending.declaration.name parentName)

/-- Settles every parent, in order of acceptance. -/
def settleParents (accepted : List Declaration) :
    List Pending → Except Fault (List Declaration)
  | [] => .ok []
  | pending :: rest =>
    match settleParent accepted pending with
    | .error fault => .error fault
    | .ok declaration => (settleParents accepted rest).map (declaration :: ·)

/-- Follows parents from `next` and collects what is met, until the chain ends or runs into
something settled; a chain that comes back to a declaration it has met answers with that
declaration. A chain without repetition has no more steps than there are declarations. -/
def ascend (graph : Graph) (settled : List DeclId) :
    (steps : Nat) → (seen : List DeclId) → (next : Option DeclId) →
      Except DeclId (List DeclId)
  | steps + 1, seen, some id =>
    if id ∈ settled then .ok seen
    else if id ∈ seen then .error id
    else ascend graph settled steps (id :: seen) ((graph.declaration? id).bind (·.parent))
  | _, seen, _ => .ok seen

/-- Follows the chains of the given declarations in turn; the first that comes back to a
declaration it has met is reported with that declaration. -/
def checkChains (graph : Graph) (settled : List DeclId) :
    List Declaration → Except Fault Unit
  | [] => .ok ()
  | start :: rest =>
    match ascend graph settled (graph.declarations.length + 1) [] (some start.id) with
    | .error id => .error (.cyclicParent start.name (graph.declarationName id))
    | .ok seen => checkChains graph (seen ++ settled) rest

/-- The accepted modules and declarations as a graph, once every parent is known and every
parent chain is seen to end. -/
def build (draft : Draft) : Except Fault Graph :=
  match settleParents draft.declarations draft.pending with
  | .error fault => .error fault
  | .ok declarations =>
    let graph : Graph := ⟨declarations, draft.modules⟩
    (checkChains graph [] declarations).map fun () ↦ graph

end Draft

end Exposure.Graph
