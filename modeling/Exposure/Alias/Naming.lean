import Exposure.Identity
import Exposure.Problem

/-!
# Choosing external names

A target is bound under exactly one name of its own. Candidates are the target itself, when
it is visible, and every alias that asks for it. Precedence runs: the encouraged alias, an
alias that moves the emission site, the target's own name, the first alias that is to be
bound itself, the first alias that is merely visible by its surroundings. Two encouraged
aliases contradict each other; without any candidate there is no name.
-/

namespace Exposure.Alias

/-- What one alias asks for its target. -/
structure Request where
  /-- The asking alias. -/
  aliasId : DeclId
  /-- Its qualified name, for diagnostics. -/
  qualifiedName : String
  /-- The name it would bind. -/
  name : String
  /-- The module that owns it. -/
  module : ModuleId
  /-- Marked visible itself, so bound as a name of its own. -/
  forward : Bool
  /-- Wants to name the target. -/
  encourage : Bool
  /-- The module it wants the target emitted in. -/
  relocateTo : Option ModuleId
  /-- Visible only through its surroundings. -/
  implicit : Bool
  deriving DecidableEq, Repr

/-- Whether the alias's own annotations ask for exposure. -/
def Request.isExplicit (request : Request) : Bool :=
  request.forward || request.encourage || request.relocateTo.isSome

/-- Where an external name comes from. -/
inductive NameSource where
  | encouraged (aliasId : DeclId)
  | relocation (aliasId : DeclId)
  /-- The target's own name. -/
  | target
  | forwarded (aliasId : DeclId)
  /-- An alias visible by its surroundings, for want of anything better. -/
  | promoted (aliasId : DeclId)
  deriving DecidableEq, Repr

/-- The alias that gave the name, if it was one. -/
def NameSource.aliasId? : NameSource → Option DeclId
  | encouraged id | relocation id | forwarded id | promoted id => some id
  | target => none

/-- A chosen name. -/
structure NameChoice where
  externalName : String
  source : NameSource
  deriving DecidableEq, Repr

/-- The name a request gives, under the heading it was chosen for. -/
def Request.choice (source : DeclId → NameSource) (request : Request) : NameChoice :=
  ⟨request.name, source request.aliasId⟩

/-- The name of a target among the requests for it, given in traversal order. -/
def chooseName (targetName targetShortName : String) (direct : Bool) (requests : List Request) :
    Except Problem (Option NameChoice) :=
  match requests.filter (·.encourage) with
  | _ :: _ :: _ =>
    .error (.ambiguousEncouragement targetName
      ((requests.filter (·.encourage)).map (·.qualifiedName)))
  | [request] => .ok (some (request.choice .encouraged))
  | [] => .ok <|
    match requests.find? (·.relocateTo.isSome) with
    | some request => some (request.choice .relocation)
    | none =>
      if direct then some ⟨targetShortName, .target⟩
      else match requests.find? (·.forward) with
        | some request => some (request.choice .forwarded)
        | none => (requests.find? (·.implicit)).map (·.choice .promoted)

end Exposure.Alias
