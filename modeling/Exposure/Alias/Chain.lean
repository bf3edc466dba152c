import Exposure.Graph.Basic
import Exposure.Keyed
import Exposure.Problem

/-!
# Alias chains

Each alias points at the declaration that its target text looks up, so the aliases of a run
form a graph in which every node has at most one outgoing edge. A **chain** follows these
edges from an alias to the first declaration that is no alias.

A walk ends in one of four ways (`Alias.walk`), tested in this order at every alias: its
target names nothing; its target is no alias, which completes the chain; its target was met
before, which closes a cycle; or the chain would outgrow the limit. The limit is the largest
number of aliases a chain may hold, and at least one alias is always allowed.
-/

namespace Exposure

/-- What an alias names, as written. -/
def Declaration.targetText (declaration : Declaration) : String :=
  declaration.target.getD ""

/-- The declaration an alias points at. -/
def Graph.directTarget? (graph : Graph) (declaration : Declaration) : Option Declaration :=
  if declaration.isAlias then graph.lookup declaration.targetText else none

namespace Alias

/-- A walk that reached its end: the aliases on the way, starting alias first, and the
declaration behind them. -/
structure Chain where
  aliases : List Declaration
  target : Declaration
  deriving DecidableEq, Repr

/-- The number of aliases walked. -/
def Chain.depth (chain : Chain) : Nat := chain.aliases.length

/-- A cycle turned so that it starts at its lowest identity. Walks that enter the same cycle
at different members agree on it in this form. -/
def fromLowest (cycle : List Declaration) : List Declaration :=
  match (cycle.map (·.id.number)).min? with
  | none => []
  | some lowest =>
    cycle.dropWhile (fun declaration ↦ declaration.id.number ≠ lowest) ++
      cycle.takeWhile (fun declaration ↦ declaration.id.number ≠ lowest)

/-- Walks on from `current`, the last alias of `path`, taking up at most `room` more. -/
def walk (graph : Graph) (start : Declaration) (limit : Nat) :
    (room : Nat) → (path : List Declaration) → (current : Declaration) → Except Problem Chain
  | room, path, current =>
    match graph.lookup current.targetText with
    | none => .error (.unresolvedAlias current.name current.targetText)
    | some next =>
      if !next.isAlias then .ok ⟨path, next⟩
      else if next ∈ path then
        .error (.cyclicAlias ((fromLowest (path.dropWhile (· ≠ next))).map (·.name)))
      else match room with
        | 0 => .error (.aliasChainTooLong start.name limit)
        | room + 1 => walk graph start limit room (path ++ [next]) next

/-- The chain that starts at a declaration. What is no alias is its own target, with nothing
on the way. -/
def resolve (graph : Graph) (maxDepth : Nat) (start : Declaration) : Except Problem Chain :=
  let limit := max 1 maxDepth
  if start.isAlias then walk graph start limit (limit - 1) [start] start
  else .ok ⟨[], start⟩

/-- The outcomes of several walks by starting alias. -/
abbrev Resolutions := Keyed DeclId (Except Problem Chain)

/-- Resolves the given aliases one by one. -/
def resolveEach (graph : Graph) (maxDepth : Nat) (starts : List Declaration) : Resolutions :=
  starts.foldl
    (fun resolutions start ↦ resolutions.insert start.id (resolve graph maxDepth start)) .empty

/-- Resolves every alias of a graph. -/
def resolveAll (graph : Graph) (maxDepth : Nat) : Resolutions :=
  resolveEach graph maxDepth graph.aliases

end Alias

end Exposure
