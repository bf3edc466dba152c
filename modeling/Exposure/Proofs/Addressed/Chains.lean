import Exposure.Alias.Chain
import Exposure.Proofs.Addressed.Places
import Exposure.Proofs.Keyed

/-!
# Chains by identities

A walk that holds nothing but identities. Where it needs to know more of an alias it goes to the
place of the alias, and where it closes a cycle it cuts the cycle out of its way at the position
noted for the alias it has come back to (`Addressed.walk`).

The way of a walk and the notes about it go together: the position noted for a declaration is where
the way has the declaration first (`Addressed.Tracks`). So the cut is within the way, and
`Addressed.resolveAll_eq` says that **no access of any walk is out of range**: all aliases are
resolved, and to what `Alias.resolveAll` resolves them to.
-/

namespace Exposure

/-- The identities of a chain. -/
structure Addressed.Trail where
  aliases : List DeclId
  target : DeclId
  deriving DecidableEq, Repr

/-- A chain, by identities. -/
def Alias.Chain.trail (chain : Alias.Chain) : Addressed.Trail :=
  ⟨chain.aliases.map (·.id), chain.target.id⟩

namespace Addressed

/-! ### The walk -/

/-- What an alias points at: a declaration, or nothing of the run. -/
def edgeOf (graph : Graph) (declaration : Declaration) : Except String DeclId :=
  match graph.lookup declaration.targetText with
  | some target => .ok target.id
  | none => .error declaration.targetText

/-- What the aliases of a graph point at. -/
def edges (graph : Graph) : Keyed DeclId (Except String DeclId) :=
  (graph.aliases.map fun declaration ↦ (declaration.id, edgeOf graph declaration)).foldl
    (fun edges edge ↦ edges.insert edge.1 edge.2) .empty

/-- The position of the lowest identity of a cycle. -/
def lowestPosition (cycle : List DeclId) : Nat :=
  match (cycle.map (·.number)).min? with
  | none => 0
  | some lowest => cycle.findIdx (·.number = lowest)

/-- The names of a cycle from its lowest identity round. -/
def cycleNames (graph : Graph) (cycle : List DeclId) : Option (List String) := do
  let onward ← sliceFrom? (lowestPosition cycle) cycle
  let before ← sliceTo? (lowestPosition cycle) cycle
  (onward ++ before).mapM graph.fetchName?

/-- Walks on from `current`, the last alias of `way`. The positions on the way are noted. -/
def walk (graph : Graph) (start : DeclId) (limit : Nat) :
    (room : Nat) → (way : List DeclId) → (positions : Keyed DeclId Nat) → (current : DeclId) →
      Option (Except Problem Trail)
  | room, way, positions, current =>
    match (edges graph).get? current with
    | none => do
      let last ← graph.fetch? current
      return .error (.unresolvedAlias last.name "")
    | some (.error text) => do
      let last ← graph.fetch? current
      return .error (.unresolvedAlias last.name text)
    | some (.ok next) => do
      let found ← graph.fetch? next
      if !found.isAlias then return .ok ⟨way, next⟩
      else match positions.get? next with
        | some position => do
          let cycle ← sliceFrom? position way
          return .error (.cyclicAlias (← cycleNames graph cycle))
        | none => match room with
          | 0 => do
            let first ← graph.fetch? start
            return .error (.aliasChainTooLong first.name limit)
          | room + 1 =>
            walk graph start limit room (way ++ [next]) (positions.insert next way.length) next

/-- The chain that starts at a declaration. -/
def resolve (graph : Graph) (maxDepth : Nat) (start : DeclId) :
    Option (Except Problem Trail) := do
  let declaration ← graph.fetch? start
  let limit := max 1 maxDepth
  if declaration.isAlias then
    walk graph start limit (limit - 1) [start] (Keyed.empty.insert start 0) start
  else return .ok ⟨[], start⟩

/-- The chains of all aliases of a graph. -/
def resolveAll (graph : Graph) (maxDepth : Nat) :
    Option (Keyed DeclId (Except Problem Trail)) :=
  (graph.aliases.map (·.id)).foldlM
    (fun trails start ↦ do return trails.insert start (← resolve graph maxDepth start)) .empty

/-! ### Its accesses -/

variable {graph : Graph}

/-- The edges are those that the target texts of the aliases give. -/
theorem get?_edges_eq_some (hgraph : graph.WellFormed) {id : DeclId} {edge : Except String DeclId} :
    (edges graph).get? id = some edge ↔ ∃ declaration ∈ graph.declarations,
      declaration.isAlias ∧ declaration.id = id ∧ edgeOf graph declaration = edge := by
  rw [edges, Keyed.get?_foldl_insert, List.mem_map]
  · simp only [Graph.aliases, List.mem_filter, Prod.mk.injEq, and_assoc]
  · intro one hone other hother hid
    obtain ⟨first, hfirst, rfl⟩ := List.mem_map.1 hone
    obtain ⟨second, hsecond, rfl⟩ := List.mem_map.1 hother
    rw [hgraph.declaration_unique (List.mem_filter.1 hfirst).1 (List.mem_filter.1 hsecond).1 hid]

/-- An alias of a graph has its edge. -/
theorem get?_edges (hgraph : graph.WellFormed) {declaration : Declaration}
    (hmem : declaration ∈ graph.declarations) (halias : declaration.isAlias) :
    (edges graph).get? declaration.id = some (edgeOf graph declaration) :=
  (get?_edges_eq_some hgraph).2 ⟨declaration, hmem, halias, rfl, rfl⟩

/-- **Edges are in range**, at the alias and at what it points at. -/
theorem inRange_edges (hgraph : graph.WellFormed) {id target : DeclId}
    (h : (edges graph).get? id = some (.ok target)) : id.InRange graph ∧ target.InRange graph := by
  obtain ⟨declaration, hmem, -, rfl, hedge⟩ := (get?_edges_eq_some hgraph).1 h
  refine ⟨hgraph.inRange hmem, ?_⟩
  rw [edgeOf] at hedge
  split at hedge
  · rename_i found hfound
    cases hedge
    exact hgraph.inRange (hgraph.lookup_eq_some.1 hfound).1
  · cases hedge

/-- The cut at the position of the lowest identity turns a cycle. -/
theorem drop_append_take_lowestPosition (cycle : List Declaration) :
    (cycle.map (·.id)).drop (lowestPosition (cycle.map (·.id))) ++
        (cycle.map (·.id)).take (lowestPosition (cycle.map (·.id))) =
      (Alias.fromLowest cycle).map (·.id) := by
  rw [lowestPosition, Alias.fromLowest, List.map_map]
  have hnumbers : ((fun id : DeclId ↦ id.number) ∘ fun declaration : Declaration ↦ declaration.id) =
      fun declaration ↦ declaration.id.number := rfl
  rw [hnumbers]
  rcases hlowest : (cycle.map fun declaration ↦ declaration.id.number).min? with - | lowest
  · rw [List.map_eq_nil_iff.1 (List.min?_eq_none_iff.1 hlowest)]
    rfl
  · have hposition : (cycle.map (·.id)).findIdx (fun id ↦ id.number = lowest) =
        cycle.findIdx fun declaration ↦ !decide (declaration.id.number ≠ lowest) := by
      rw [List.findIdx_map]
      congr 1
      funext declaration
      simp
    rw [hlowest]
    dsimp only
    rw [hposition, List.map_append, List.dropWhile_eq_drop_findIdx_not,
      List.takeWhile_eq_take_findIdx_not, List.map_drop, List.map_take]

/-- **The names of a cycle are found**, and they are those of the cycle turned to its lowest
member. -/
theorem cycleNames_eq (hgraph : graph.WellFormed) (hfits : graph.FitsWords)
    {cycle : List Declaration} (hcycle : cycle ⊆ graph.declarations) :
    cycleNames graph (cycle.map (·.id)) = some ((Alias.fromLowest cycle).map (·.name)) := by
  have hle : lowestPosition (cycle.map (·.id)) ≤ (cycle.map (·.id)).length := by
    rw [lowestPosition]
    split
    · exact Nat.zero_le _
    · exact List.findIdx_le_length
  have hsubset : Alias.fromLowest cycle ⊆ graph.declarations := fun declaration hmem ↦ by
    rw [Alias.fromLowest] at hmem
    split at hmem
    · exact absurd hmem List.not_mem_nil
    · rcases List.mem_append.1 hmem with hmem | hmem
      · exact hcycle ((List.dropWhile_sublist _).subset hmem)
      · exact hcycle ((List.takeWhile_sublist _).subset hmem)
  rw [cycleNames, sliceFrom?, if_pos hle, sliceTo?, if_pos hle]
  dsimp only [bind, Option.bind]
  rw [drop_append_take_lowestPosition, List.mapM_map]
  refine mapM_eq_some fun declaration hmem ↦ ?_
  rw [Function.comp_apply, Graph.fetchName?, hfits.fetch?_of_mem hgraph (hsubset hmem)]
  rfl

/-- **The notes about a way**: for each declaration the position at which the way has it first. -/
def Tracks (graph : Graph) (path : List Declaration) (positions : Keyed DeclId Nat) : Prop :=
  ∀ declaration ∈ graph.declarations, positions.get? declaration.id = path.idxOf? declaration

/-- One more alias on the way is noted at the end. -/
theorem Tracks.concat {path : List Declaration} {positions : Keyed DeclId Nat}
    (h : Tracks graph path positions) (hgraph : graph.WellFormed) {next : Declaration}
    (hmem : next ∈ graph.declarations) (hnew : next ∉ path) :
    Tracks graph (path ++ [next]) (positions.insert next.id path.length) := by
  intro declaration hdeclared
  have hconcat : (path ++ [next]).idxOf? declaration =
      (path.idxOf? declaration).or ([next].idxOf? declaration |>.map (· + path.length)) :=
    List.findIdx?_append
  rw [Keyed.get?_insert, h declaration hdeclared, hconcat]
  split
  · rename_i hid
    obtain rfl := hgraph.declaration_unique hmem hdeclared hid
    rw [List.idxOf?_eq_none_iff.2 hnew]
    simp
  · rename_i hid
    have hother : next ≠ declaration := fun heq ↦ hid (congrArg _ heq)
    simp [hother]

/-- The cut at the noted position is what is left of the way from there. -/
theorem sliceFrom?_eq {path : List Declaration} {next : Declaration} {position : Nat}
    (h : path.idxOf? next = some position) :
    sliceFrom? position (path.map (·.id)) =
      some ((path.dropWhile (· ≠ next)).map (·.id)) := by
  obtain ⟨hlt, hfirst⟩ := List.findIdx?_eq_some_iff_findIdx_eq.1 h
  have hnot : (fun declaration ↦ declaration == next) = fun declaration ↦
      !decide (declaration ≠ next) := by
    funext declaration
    rw [decide_not, Bool.not_not]
    rfl
  rw [sliceFrom?, List.length_map, if_pos (Nat.le_of_lt hlt), List.dropWhile_eq_drop_findIdx_not,
    ← hnot, hfirst, List.map_drop]

/-- **One step of a walk** goes by the edge of an alias to the declaration that the edge names, and
both are there. -/
theorem walk_of_lookup (hgraph : graph.WellFormed) (hfits : graph.FitsWords)
    {current next : Declaration} (hcurrent : current ∈ graph.declarations)
    (halias : current.isAlias) (hnext : graph.lookup current.targetText = some next)
    (start : DeclId) (limit room : Nat) (way : List DeclId) (positions : Keyed DeclId Nat) :
    walk graph start limit room way positions current.id =
      if !next.isAlias then some (.ok ⟨way, next.id⟩)
      else match positions.get? next.id with
        | some position => do
          let cycle ← sliceFrom? position way
          return .error (.cyclicAlias (← cycleNames graph cycle))
        | none => match room with
          | 0 => do
            let first ← graph.fetch? start
            return .error (.aliasChainTooLong first.name limit)
          | room + 1 =>
            walk graph start limit room (way ++ [next.id]) (positions.insert next.id way.length)
              next.id := by
  obtain ⟨hmem, -⟩ := hgraph.lookup_eq_some.1 hnext
  rw [walk.eq_def]
  dsimp only
  rw [get?_edges hgraph hcurrent halias, edgeOf, hnext]
  dsimp only
  rw [hfits.fetch?_of_mem hgraph hmem, Option.bind_eq_bind, Option.bind_some]
  rfl

/-- **No access of a walk is out of range**, and the walk is the one that holds the declarations.
By induction on the room that is left; the notes stay with the way. -/
theorem walk_eq (hgraph : graph.WellFormed) (hfits : graph.FitsWords) {start current : Declaration}
    (hstart : start ∈ graph.declarations) (hcurrent : current ∈ graph.declarations)
    (halias : current.isAlias) {path : List Declaration} (hpath : path ⊆ graph.declarations)
    {positions : Keyed DeclId Nat} (htracks : Tracks graph path positions) (limit room : Nat) :
    walk graph start.id limit room (path.map (·.id)) positions current.id =
      some ((Alias.walk graph start limit room path current).map Alias.Chain.trail) := by
  fun_induction Alias.walk graph start limit room path current generalizing positions with
  | case1 room path current hnone =>
    rw [walk, get?_edges hgraph hcurrent halias, edgeOf, hnone]
    dsimp only
    rw [hfits.fetch?_of_mem hgraph hcurrent]
    rfl
  | case2 room path current next hnext hother =>
    rw [walk_of_lookup hgraph hfits hcurrent halias hnext, if_pos hother]
    rfl
  | case3 room path current next hnext hother hagain =>
    obtain ⟨hmem, -⟩ := hgraph.lookup_eq_some.1 hnext
    -- What is met again is noted where the way has it, so there is a part of the way from there.
    obtain ⟨position, hposition⟩ := Option.ne_none_iff_exists'.1
      (mt List.idxOf?_eq_none_iff.1 (not_not_intro hagain))
    have hcycle : path.dropWhile (· ≠ next) ⊆ graph.declarations := fun _ hone ↦
      hpath ((List.dropWhile_sublist _).subset hone)
    rw [walk_of_lookup hgraph hfits hcurrent halias hnext, if_neg hother, htracks next hmem,
      hposition]
    dsimp only
    rw [sliceFrom?_eq hposition, Option.bind_eq_bind, Option.bind_some,
      cycleNames_eq hgraph hfits hcycle]
    rfl
  | case4 path current next hnext hother hnew =>
    obtain ⟨hmem, -⟩ := hgraph.lookup_eq_some.1 hnext
    rw [walk_of_lookup hgraph hfits hcurrent halias hnext, if_neg hother, htracks next hmem,
      List.idxOf?_eq_none_iff.2 hnew]
    dsimp only
    rw [hfits.fetch?_of_mem hgraph hstart]
    rfl
  | case5 path current next hnext hother hnew room ih =>
    obtain ⟨hmem, -⟩ := hgraph.lookup_eq_some.1 hnext
    have hnextAlias : next.isAlias := by simpa using hother
    -- The way and the notes grow by the same alias, and go on tracking each other.
    have honward := ih hmem hnextAlias
      (List.append_subset.2 ⟨hpath, List.cons_subset.2 ⟨hmem, List.nil_subset _⟩⟩)
      (htracks.concat hgraph hmem hnew)
    rw [List.map_append] at honward
    rw [walk_of_lookup hgraph hfits hcurrent halias hnext, if_neg hother, htracks next hmem,
      List.idxOf?_eq_none_iff.2 hnew, List.length_map]
    exact honward

/-- The aliases of a chain are declarations, where those on the way so far are. -/
theorem aliases_of_walk {start current : Declaration} {limit room : Nat} {path : List Declaration}
    (hpath : path ⊆ graph.declarations) {chain : Alias.Chain}
    (h : Alias.walk graph start limit room path current = .ok chain) :
    chain.aliases ⊆ graph.declarations := by
  fun_induction Alias.walk graph start limit room path current with
  | case1 | case3 | case4 => cases h
  | case2 room path current next hnext hother =>
    cases h
    exact hpath
  | case5 path current next hnext hother hnew room ih =>
    have hmem : next ∈ graph.declarations := List.mem_of_find?_eq_some hnext
    exact ih (List.append_subset.2 ⟨hpath, List.cons_subset.2 ⟨hmem, List.nil_subset _⟩⟩) h

/-- The aliases of a chain that starts at a declaration are declarations. -/
theorem aliases_of_resolve {depth : Nat} {start : Declaration}
    (hstart : start ∈ graph.declarations) {chain : Alias.Chain}
    (h : Alias.resolve graph depth start = .ok chain) : chain.aliases ⊆ graph.declarations := by
  rw [Alias.resolve] at h
  split at h
  · exact aliases_of_walk (List.cons_subset.2 ⟨hstart, List.nil_subset _⟩) h
  · cases h
    exact List.nil_subset _

/-- **No access of a resolution is out of range**, whatever declaration it starts at. -/
theorem resolve_eq (hgraph : graph.WellFormed) (hfits : graph.FitsWords) (depth : Nat)
    {start : Declaration} (hstart : start ∈ graph.declarations) :
    resolve graph depth start.id =
      some ((Alias.resolve graph depth start).map Alias.Chain.trail) := by
  rw [resolve, hfits.fetch?_of_mem hgraph hstart, Option.bind_eq_bind, Option.bind_some,
    Alias.resolve]
  dsimp only
  split
  · rename_i halias
    have htracks : Tracks graph [start] (Keyed.empty.insert start.id 0) := by
      intro declaration hdeclared
      rw [Keyed.get?_insert, Keyed.get?_empty, List.idxOf?_cons]
      by_cases hid : start.id = declaration.id
      · simp [hgraph.declaration_unique hstart hdeclared hid]
      · have hother : start ≠ declaration := fun heq ↦ hid (congrArg _ heq)
        simp [hid, hother]
    exact walk_eq hgraph hfits hstart hstart halias
      (List.cons_subset.2 ⟨hstart, List.nil_subset _⟩) htracks _ _
  · rfl

/-- **All aliases are resolved without an access out of range.** -/
theorem resolveAll_eq (hgraph : graph.WellFormed) (hfits : graph.FitsWords) (depth : Nat) :
    resolveAll graph depth =
      some ((Alias.resolveAll graph depth).map (Except.map Alias.Chain.trail)) := by
  rw [resolveAll, Alias.resolveAll, Alias.resolveEach, List.foldlM_map]
  refine foldlM_eq_some (Keyed.map (Except.map Alias.Chain.trail)) (fun trails start hstart ↦ ?_)
    .empty
  rw [resolve_eq hgraph hfits depth (List.mem_filter.1 hstart).1, Keyed.map_insert]
  rfl

end Addressed
end Exposure
