import Exposure.Graph.Draft
import Exposure.Graph.Indexed

/-!
# Building a graph

A builder fills the collections of a graph in place. Every operation changes the builder that it
works on, one collection after the other, and an operation that fails leaves the builder as it is by
then: operations are programs over the builder as their state (`EStateM`), and an error comes with
a state as well.

A module is known by its name at once, a declaration too; the scope around a declaration is noted by
name and looked up when the graph is built (`Builder.build`). Then the collections are handed over.
-/

namespace Exposure.Graph

/-- The collections of a graph that is being loaded. -/
structure Builder extends Indexed where
  /-- The names of the scopes around declarations, until they are looked up. -/
  pendingParents : List (DeclId × String)

namespace Builder

/-- The builder to start from. -/
def empty : Builder := ⟨⟨[], .empty, [], .empty⟩, []⟩

/-- Adds a module; its name must be new. -/
def addModule (name : String) (marks : List Mark) : EStateM Fault Builder ModuleId := do
  if ((← get).moduleByName.get? name).isSome then
    throw (.duplicateModule name)
  let id := ModuleId.ofIndex (← get).modules.length
  modify fun builder ↦ { builder with moduleByName := builder.moduleByName.insert name id }
  modify fun builder ↦ { builder with modules := builder.modules ++ [⟨⟨id, name, marks⟩, []⟩] }
  return id

/-- Notes the scope around a declaration, if one is named. -/
def noteParent (id : DeclId) (parent : Option String) : EStateM Fault Builder Unit :=
  match parent with
  | none => pure ()
  | some name => modify fun builder ↦
    { builder with pendingParents := builder.pendingParents ++ [(id, Name.withoutGlobal name)] }

/-- Adds a declaration. Its name without the global marker must be new, its module known, and
its target fit its kind; the first check that fails decides. -/
def addDeclaration (spec : Spec) : EStateM Fault Builder DeclId := do
  let name := Name.withoutGlobal spec.name
  if ((← get).byName.get? name).isSome then
    throw (.duplicateDeclaration name)
  match (← get).moduleByName.get? spec.module with
  | none => throw (.unknownModule name spec.module)
  | some module =>
    match Draft.checkTarget name spec.kind spec.target with
    | .error fault => throw fault
    | .ok () =>
      let id := DeclId.ofIndex (← get).declarations.length
      noteParent id spec.parent
      modify fun builder ↦ { builder with byName := builder.byName.insert name id }
      modify fun builder ↦
        { builder with
          modules := builder.modules.modify module.index fun owner ↦
            { owner with declarations := owner.declarations ++ [id] } }
      modify fun builder ↦
        { builder with
          declarations := builder.declarations ++
            [⟨id, name, spec.kind, module, none, spec.target, spec.marks⟩] }
      return id

/-- Looks up the scope around a declaration by the name noted for it; it must be a name scope. -/
def settleParent (child : DeclId) (parentName : String) : EStateM Fault Builder Unit := do
  let childName := (← get).graph.declarationName child
  match (← get).byName.get? parentName with
  | none => throw (.unknownParent childName parentName)
  | some parent =>
    if ((← get).declaration? parent).map (·.kind) = some .scope then
      modify fun builder ↦
        { builder with
          declarations := builder.declarations.modify child.index fun declaration ↦
            { declaration with parent := some parent } }
    else throw (.parentNotScope childName parentName)

/-- Looks up the scopes around declarations in turn. -/
def settleParents : List (DeclId × String) → EStateM Fault Builder Unit
  | [] => pure ()
  | (child, parentName) :: rest => do
    settleParent child parentName
    settleParents rest

/-- The collections, once every scope is looked up and every parent chain is seen to end. -/
def build (builder : Builder) : Except Fault Indexed :=
  match settleParents builder.pendingParents { builder with pendingParents := [] } with
  | .error fault _ => .error fault
  | .ok () settled =>
    (Draft.checkChains settled.graph [] settled.declarations).map fun () ↦ settled.toIndexed

end Builder

end Exposure.Graph
