import Exposure.Proofs.Document.Built
import Exposure.Proofs.Graph.Histories
import Exposure.Proofs.Graph.Nesting

/-!
# Loops of parents

The last check of a draft follows the parents of every declaration and does not follow again what an
earlier chain has settled. This file tells what the check finds without mentioning what is settled.

From a declaration one goes up by single steps to the parent (`Graph.above`). A chain that never
comes to the top level is **endless** (`Graph.Endless`); since there are only so many declarations,
it comes to a loop, and where it does so first is the one declaration where it **enters** the loop
(`Graph.EntersLoop`).

A walk that is refused has come upon a declaration that it has met, and that is where it enters the
loop: what it met before is on no loop, for the walk would have come back there first
(`entersLoop_of_back`). What is settled does not matter, because it ends. So the check finds
what a check finds that follows every chain by itself (`Draft.checkChains_eq_checkEach`), and this
one refuses the first declaration whose chain is endless.

What it means for the drafts and the graphs that a run may come by is stated in
`Draft.parent_loops_found`.
-/

namespace Exposure.Graph

/-! ### Going up -/

/-- The parent under an identity. -/
def parent? (graph : Graph) (id : DeclId) : Option DeclId :=
  (graph.declaration? id).bind (·.parent)

/-- What is a number of steps above a declaration; there is nothing above the top level. -/
def above (graph : Graph) (start : DeclId) : (steps : Nat) → Option DeclId
  | 0 => some start
  | steps + 1 => (above graph start steps).bind graph.parent?

/-- Following parents never comes to the top level. -/
def Endless (graph : Graph) (start : DeclId) : Prop :=
  ∀ steps, (graph.above start steps).isSome

/-- Following parents comes back. -/
def OnLoop (graph : Graph) (id : DeclId) : Prop :=
  ∃ steps, graph.above id (steps + 1) = some id

/-- **Where a chain of parents enters a loop**: the first on a loop that it meets. -/
def EntersLoop (graph : Graph) (start again : DeclId) : Prop :=
  ∃ steps, graph.above start steps = some again ∧ graph.OnLoop again ∧
    ∀ fewer < steps, ∀ id, graph.above start fewer = some id → ¬ graph.OnLoop id

variable {graph : Graph} {start again id : DeclId}

/-- Steps may be taken in two parts. -/
theorem above_add (graph : Graph) (start : DeclId) (steps more : Nat) :
    graph.above start (steps + more) =
      (graph.above start steps).bind fun id ↦ graph.above id more := by
  induction more with
  | zero =>
    show graph.above start steps = (graph.above start steps).bind some
    rw [Option.bind_fun_some]
  | succ more ih =>
    show (graph.above start (steps + more)).bind graph.parent? = _
    rw [ih, Option.bind_assoc]
    rfl

/-- The first step goes to the parent. -/
theorem above_succ (graph : Graph) (start : DeclId) (steps : Nat) :
    graph.above start (steps + 1) =
      (graph.parent? start).bind fun id ↦ graph.above id steps := by
  rw [Nat.add_comm, above_add]
  rfl

theorem isSome_above_of_le {steps fewer : Nat} (hle : fewer ≤ steps)
    (h : (graph.above start steps).isSome) : (graph.above start fewer).isSome := by
  rw [show steps = fewer + (steps - fewer) by omega, above_add] at h
  rcases habove : graph.above start fewer with - | id
  · rw [habove] at h
    simp at h
  · rfl

/-- A way back may be gone again and again. -/
theorem above_mul {steps : Nat} (h : graph.above id steps = some id) (rounds : Nat) :
    graph.above id (steps * rounds) = some id := by
  induction rounds with
  | zero => rfl
  | succ rounds ih =>
    rw [Nat.mul_succ, above_add, ih]
    exact h

/-- A chain enters no more than one loop, in one place. -/
theorem EntersLoop.unique {other : DeclId} (h : graph.EntersLoop start again)
    (hother : graph.EntersLoop start other) : again = other := by
  obtain ⟨steps, habove, hloop, hbefore⟩ := h
  obtain ⟨steps', habove', hloop', hbefore'⟩ := hother
  rcases Nat.lt_trichotomy steps steps' with hlt | rfl | hlt
  · exact absurd hloop (hbefore' steps hlt again habove)
  · exact Option.some.inj (habove.symm.trans habove')
  · exact absurd hloop' (hbefore steps' hlt other habove')

/-- A chain that enters a loop is endless. -/
theorem EntersLoop.endless (h : graph.EntersLoop start again) : graph.Endless start := by
  obtain ⟨steps, habove, ⟨round, hround⟩, -⟩ := h
  intro number
  have hfar : graph.above start (steps + (round + 1) * number) = some again := by
    rw [above_add, habove]
    exact above_mul hround number
  have hle : number ≤ steps + (round + 1) * number := by
    rw [Nat.add_mul]
    omega
  exact isSome_above_of_le hle (by rw [hfar]; rfl)

theorem EntersLoop.onLoop (h : graph.EntersLoop start again) : graph.OnLoop again := by
  obtain ⟨-, -, hloop, -⟩ := h
  exact hloop

/-- What is on a loop has a parent. -/
theorem OnLoop.isSome_parent? (h : graph.OnLoop id) : (graph.parent? id).isSome := by
  obtain ⟨steps, hround⟩ := h
  exact isSome_above_of_le (Nat.le_add_left 1 steps) (by rw [hround]; rfl)

/-- What is on a loop is a declaration of the graph. -/
theorem OnLoop.exists_declaration (hgraph : graph.WellFormed) (h : graph.OnLoop id) :
    ∃ declaration ∈ graph.declarations, declaration.id = id := by
  have hparent := h.isSome_parent?
  rw [parent?] at hparent
  rcases hfound : graph.declaration? id with - | declaration
  · rw [hfound] at hparent
    simp at hparent
  · exact ⟨declaration, hgraph.declaration?_eq_some.1 hfound⟩

/-- A chain that comes back stays within what it has met since. -/
theorem exists_above_eq {first length : Nat} (hlt : first < length)
    (hback : graph.above start length = graph.above start first) (far : Nat) :
    ∃ place, first ≤ place ∧ place < length ∧
      graph.above start (first + far) = graph.above start place := by
  induction far with
  | zero => exact ⟨first, Nat.le_refl _, hlt, rfl⟩
  | succ far ih =>
    obtain ⟨place, hfrom, hto, hplace⟩ := ih
    have hnext : graph.above start (first + (far + 1)) = graph.above start (place + 1) :=
      congrArg (·.bind graph.parent?) hplace
    rcases Nat.lt_or_ge (place + 1) length with hinside | hend
    · exact ⟨place + 1, Nat.le_succ_of_le hfrom, hinside, hnext⟩
    · obtain rfl : length = place + 1 := by omega
      exact ⟨first, Nat.le_refl _, hlt, hnext.trans hback⟩

/-- **Where a chain comes back for the first time it enters a loop.** What it met before that is on
no loop: going round from there, the chain would not get out of what it met since, but it would come
back. -/
theorem entersLoop_of_back {first length : Nat} (hlt : first < length)
    (hfirst : graph.above start first = some id) (hback : graph.above start length = some id)
    (hnew : ∀ fewer more, fewer < more → more < length →
      graph.above start fewer ≠ graph.above start more) :
    graph.EntersLoop start id := by
  have hround : graph.above id (length - first) = some id := by
    have hadd := above_add graph start first (length - first)
    rw [Nat.add_sub_cancel' (Nat.le_of_lt hlt), hfirst, hback] at hadd
    exact hadd.symm
  refine ⟨first, hfirst, ⟨length - first - 1, ?_⟩, fun fewer hfewer one hone hloop ↦ ?_⟩
  · rwa [Nat.sub_add_cancel (by omega)]
  · obtain ⟨round, hreturn⟩ := hloop
    have hfar : graph.above start (fewer + (round + 1) * first) = some one := by
      rw [above_add, hone]
      exact above_mul hreturn first
    have hle : first ≤ fewer + (round + 1) * first := by
      rw [Nat.add_mul]
      omega
    obtain ⟨place, hfrom, hto, hplace⟩ :=
      exists_above_eq hlt (hback.trans hfirst.symm) (fewer + (round + 1) * first - first)
    rw [Nat.add_sub_cancel' hle, hfar] at hplace
    exact hnew fewer place (by omega) hto (hone.trans hplace)

/-! ### Chains that end -/

/-- **The scopes around a place are what is above it**, step by step. -/
theorem Nested.above_eq (hgraph : graph.WellFormed) {next : Option DeclId}
    {scopes : List Declaration} (h : graph.Nested next scopes) (steps : Nat) :
    (next.bind fun id ↦ graph.above id steps) = (scopes[steps]?).map (·.id) := by
  induction h generalizing steps with
  | top => rfl
  | @inside id scope scopes found outer ih =>
    rcases steps with - | steps
    · show some id = some scope.id
      rw [(hgraph.declaration?_eq_some.1 found).2]
    · have hparent : graph.parent? id = scope.parent := by rw [parent?, found]; rfl
      rw [Option.bind_some, above_succ, hparent]
      exact ih steps

/-- **A chain of a declaration ends exactly if it is not endless.** -/
theorem ends_iff_not_endless (hgraph : graph.WellFormed) {declaration : Declaration}
    (hmem : declaration ∈ graph.declarations) :
    graph.Ends (some declaration.id) ↔ ¬ graph.Endless declaration.id := by
  constructor
  · rintro ⟨scopes, hscopes⟩ hendless
    have hnone := hscopes.above_eq hgraph scopes.length
    rw [Option.bind_some, List.getElem?_eq_none (Nat.le_refl _)] at hnone
    have hsome := hendless scopes.length
    rw [hnone] at hsome
    simp at hsome
  · intro h
    obtain ⟨steps, hsteps⟩ := not_forall.1 h
    rw [Option.not_isSome_iff_eq_none] at hsteps
    clear h
    induction steps generalizing declaration with
    | zero => cases hsteps
    | succ steps ih =>
      have hfound : graph.declaration? declaration.id = some declaration :=
        hgraph.declaration?_eq_some.2 ⟨hmem, rfl⟩
      rw [above_succ, parent?, hfound, Option.bind_some] at hsteps
      rcases hparent : declaration.parent with - | parent
      · exact ⟨[declaration], .inside hfound (hparent ▸ .top)⟩
      · obtain ⟨scope, hscope, rfl, -⟩ := hgraph.parents declaration hmem parent hparent
        rw [hparent] at hsteps
        obtain ⟨scopes, hscopes⟩ := ih hscope hsteps
        exact ⟨declaration :: scopes, .inside hfound (hparent ▸ hscopes)⟩

/-- The scopes around a declaration lead from parent to parent, and the last has none. -/
theorem Nested.isChain (hgraph : graph.WellFormed) {declaration : Declaration}
    {scopes : List Declaration} (h : graph.Nested declaration.parent scopes) :
    (declaration :: scopes).IsChain (fun inner outer ↦ inner.parent = some outer.id) ∧
      ((declaration :: scopes).getLast (List.cons_ne_nil _ _)).parent = none := by
  induction scopes generalizing declaration with
  | nil =>
    refine ⟨List.IsChain.singleton _, ?_⟩
    show declaration.parent = none
    generalize declaration.parent = next at h
    cases h
    rfl
  | cons scope scopes ih =>
    generalize hparent : declaration.parent = next at h
    rcases h with - | ⟨found, outer⟩
    obtain ⟨hchain, hlast⟩ := ih outer
    refine ⟨List.isChain_cons_cons.2 ⟨?_, hchain⟩, ?_⟩
    · rw [hparent, (hgraph.declaration?_eq_some.1 found).2]
    · rwa [List.getLast_cons (List.cons_ne_nil _ _)]

/-- What is around a declaration is name scopes. -/
theorem Nested.kind_eq (hgraph : graph.WellFormed) {declaration : Declaration}
    (hmem : declaration ∈ graph.declarations) {scopes : List Declaration}
    (h : graph.Nested declaration.parent scopes) : ∀ scope ∈ scopes, scope.kind = .scope := by
  induction scopes generalizing declaration with
  | nil => simp
  | cons scope scopes ih =>
    generalize hparent : declaration.parent = next at h
    rcases h with - | ⟨found, outer⟩
    obtain ⟨hscope, hid⟩ := hgraph.declaration?_eq_some.1 found
    obtain ⟨parent, hparentMem, hparentId, hkind⟩ := hgraph.parents declaration hmem _ hparent
    obtain rfl := hgraph.declaration_unique hscope hparentMem (hid.trans hparentId.symm)
    exact List.forall_mem_cons.2 ⟨hkind, ih hscope outer⟩

namespace Draft

/-! ### What the check finds -/

/-- **What a walk has met** in a number of steps: all that lies within them above its start, each
once. -/
structure Met (graph : Graph) (start : DeclId) (length : Nat) (seen : List DeclId) : Prop where
  mem_iff : ∀ one, one ∈ seen ↔ ∃ fewer < length, graph.above start fewer = some one
  ne : ∀ fewer more, fewer < more → more < length →
    graph.above start fewer ≠ graph.above start more

theorem met_nil (graph : Graph) (start : DeclId) : Met graph start 0 [] :=
  ⟨by simp, by simp⟩

/-- One step further a walk has met one more, unless it has come back. -/
theorem Met.cons {length : Nat} {seen : List DeclId} (h : Met graph start length seen)
    (hid : graph.above start length = some id) (hunmet : id ∉ seen) :
    Met graph start (length + 1) (id :: seen) where
  mem_iff one := by
    rw [List.mem_cons, h.mem_iff]
    constructor
    · rintro (rfl | ⟨fewer, hfewer, habove⟩)
      · exact ⟨length, Nat.lt_succ_self _, hid⟩
      · exact ⟨fewer, Nat.lt_succ_of_lt hfewer, habove⟩
    · rintro ⟨fewer, hfewer, habove⟩
      rcases Nat.lt_succ_iff_lt_or_eq.1 hfewer with hlt | rfl
      · exact .inr ⟨fewer, hlt, habove⟩
      · exact .inl (Option.some.inj (habove.symm.trans hid))
  ne fewer more hlt hmore := by
    rcases Nat.lt_succ_iff_lt_or_eq.1 hmore with hmore | rfl
    · exact h.ne fewer more hlt hmore
    · rw [hid]
      exact fun habove ↦ hunmet ((h.mem_iff id).2 ⟨fewer, hlt, habove⟩)

/-- **A walk that is refused is refused where the chain enters a loop**, for it is refused where it
comes back. -/
theorem entersLoop_of_ascend {settled : List DeclId} {steps length : Nat} {seen : List DeclId}
    {found : DeclId} (hmet : Met graph start length seen)
    (hid : graph.above start length = some id)
    (h : ascend graph settled steps seen (some id) = .error found) :
    graph.EntersLoop start found := by
  induction steps generalizing length seen id with
  | zero => cases h
  | succ steps ih =>
    rw [ascend] at h
    split at h
    · cases h
    · split at h
      · rename_i hagain
        obtain rfl := Except.error.inj h
        obtain ⟨first, hlt, hfirst⟩ := (hmet.mem_iff id).1 hagain
        exact entersLoop_of_back hlt hfirst hid hmet.ne
      · rename_i hunmet
        have hnext : graph.above start (length + 1) = graph.parent? id := by
          show (graph.above start length).bind graph.parent? = _
          rw [hid, Option.bind_some]
        change ascend graph settled steps (id :: seen) (graph.parent? id) = .error found at h
        rcases hparent : graph.parent? id with - | parent
        · rw [hparent] at h
          cases steps <;> cases h
        · rw [hparent] at h hnext
          exact ih (hmet.cons hid hunmet) hnext h

section Check

variable (hgraph : graph.WellFormed)
include hgraph

/-- **A walk from a declaration is refused exactly where its chain enters a loop**, whatever has
been settled before, as long as that ends. -/
theorem ascend_eq_error_iff (settled : List DeclId)
    (hsettled : ∀ id ∈ settled, graph.Ends (some id)) {declaration : Declaration}
    (hmem : declaration ∈ graph.declarations) (found : DeclId) :
    ascend graph settled (graph.declarations.length + 1) [] (some declaration.id) = .error found ↔
      graph.EntersLoop declaration.id found := by
  have hrefused {other : DeclId} : ascend graph settled (graph.declarations.length + 1) []
      (some declaration.id) = .error other → graph.EntersLoop declaration.id other :=
    entersLoop_of_ascend (met_nil graph declaration.id) rfl
  refine ⟨hrefused, fun h ↦ ?_⟩
  rcases hresult : ascend graph settled (graph.declarations.length + 1) []
    (some declaration.id) with other | seen
  · rw [(hrefused hresult).unique h]
  · have hends := (ends_of_ascend_start hgraph hsettled hmem rfl hresult).1
    exact absurd h.endless ((ends_iff_not_endless hgraph hmem).1 hends)

/-- **An endless chain enters a loop.** -/
theorem exists_entersLoop {declaration : Declaration} (hmem : declaration ∈ graph.declarations)
    (h : graph.Endless declaration.id) : ∃ again, graph.EntersLoop declaration.id again := by
  have hsettled : ∀ id ∈ ([] : List DeclId), graph.Ends (some id) := by simp
  rcases hresult : ascend graph [] (graph.declarations.length + 1) [] (some declaration.id) with
    again | seen
  · exact ⟨again, (ascend_eq_error_iff hgraph [] hsettled hmem again).1 hresult⟩
  · have hends := (ends_of_ascend_start hgraph hsettled hmem rfl hresult).1
    exact absurd h ((ends_iff_not_endless hgraph hmem).1 hends)

end Check

/-- Follows the chain of each of the given declarations by itself, all the way up; the first that
comes back to a declaration it has met is reported with that declaration. -/
def checkEach (graph : Graph) : List Declaration → Except Fault Unit
  | [] => .ok ()
  | start :: rest =>
    match ascend graph [] (graph.declarations.length + 1) [] (some start.id) with
    | .error id => .error (.cyclicParent start.name (graph.declarationName id))
    | .ok _ => checkEach graph rest

section Check

variable (hgraph : graph.WellFormed)
include hgraph

/-- **What is settled makes no difference**, as long as it ends. -/
theorem checkChains_eq_checkEach (settled : List DeclId)
    (hsettled : ∀ id ∈ settled, graph.Ends (some id)) {starts : List Declaration}
    (hstarts : starts ⊆ graph.declarations) :
    checkChains graph settled starts = checkEach graph starts := by
  induction starts generalizing settled with
  | nil => rfl
  | cons first rest ih =>
    obtain ⟨hfirst, hrest⟩ := List.cons_subset.1 hstarts
    have hsame (found : DeclId) := (ascend_eq_error_iff hgraph settled hsettled hfirst found).trans
      (ascend_eq_error_iff hgraph [] (by simp) hfirst found).symm
    rw [checkChains, checkEach]
    rcases hwith : ascend graph settled (graph.declarations.length + 1) [] (some first.id) with
      found | seen
    · rw [(hsame found).1 hwith]
    · rcases hwithout : ascend graph [] (graph.declarations.length + 1) [] (some first.id) with
        found | others
      · rw [(hsame found).2 hwithout] at hwith
        cases hwith
      · exact ih _ (ends_of_ascend_start hgraph hsettled hfirst rfl hwith).2 hrest

/-- **The check refuses the first declaration whose chain is endless**, with the declaration where
the chain enters a loop. -/
theorem checkEach_eq_error_iff {starts : List Declaration} (hstarts : starts ⊆ graph.declarations)
    {fault : Fault} :
    checkEach graph starts = .error fault ↔
      ∃ before first rest again, starts = before ++ first :: rest ∧
        (∀ one ∈ before, ¬ graph.Endless one.id) ∧ graph.EntersLoop first.id again ∧
        fault = .cyclicParent first.name (graph.declarationName again) := by
  induction starts with
  | nil => simp [checkEach]
  | cons first rest ih =>
    obtain ⟨hfirst, hrest⟩ := List.cons_subset.1 hstarts
    have hiff (found : DeclId) :=
      ascend_eq_error_iff hgraph [] (by simp) hfirst found
    rw [checkEach]
    rcases hresult : ascend graph [] (graph.declarations.length + 1) [] (some first.id) with
      found | seen
    · -- The first chain is refused, so nothing can come before it, and where it enters its loop is
      -- unique.
      have hloop := (hiff found).1 hresult
      constructor
      · intro h
        exact ⟨[], first, rest, found, rfl, by simp, hloop, (Except.error.inj h).symm⟩
      · rintro ⟨before, one, others, again, hsplit, hbefore, hagain, rfl⟩
        rcases before with - | ⟨earlier, before⟩
        · obtain ⟨rfl, rfl⟩ := List.cons.inj hsplit
          rw [hloop.unique hagain]
        · obtain ⟨rfl, -⟩ := List.cons.inj hsplit
          exact absurd hloop.endless (hbefore first List.mem_cons_self)
    · -- An endless chain would enter a loop and be refused.
      have hends : ¬ graph.Endless first.id := by
        intro hendless
        obtain ⟨again, hagain⟩ := exists_entersLoop hgraph hfirst hendless
        rw [(hiff again).2 hagain] at hresult
        cases hresult
      refine (ih hrest).trans ⟨?_, ?_⟩
      · rintro ⟨before, one, others, again, rfl, hbefore, hagain⟩
        exact ⟨first :: before, one, others, again, rfl,
          List.forall_mem_cons.2 ⟨hends, hbefore⟩, hagain⟩
      · rintro ⟨before, one, others, again, hsplit, hbefore, hagain, hfault⟩
        rcases before with - | ⟨earlier, before⟩
        · obtain ⟨rfl, -⟩ := List.cons.inj hsplit
          exact absurd hagain.endless hends
        · obtain ⟨rfl, rfl⟩ := List.cons.inj hsplit
          exact ⟨before, one, others, again, rfl, (List.forall_mem_cons.1 hbefore).2, hagain,
            hfault⟩

/-- Over all declarations, the check refuses the lowest one whose chain is endless. -/
theorem checkEach_declarations_eq_error_iff {fault : Fault} :
    checkEach graph graph.declarations = .error fault ↔
      ∃ first ∈ graph.declarations, ∃ again ∈ graph.declarations, graph.Endless first.id ∧
        (∀ other ∈ graph.declarations, graph.Endless other.id →
          first.id.number ≤ other.id.number) ∧
        graph.EntersLoop first.id again.id ∧ fault = .cyclicParent first.name again.name := by
  rw [checkEach_eq_error_iff hgraph (List.Subset.refl _)]
  constructor
  · rintro ⟨before, first, rest, id, hsplit, hbefore, hloop, rfl⟩
    have hfirst : first ∈ graph.declarations := by
      rw [hsplit]
      exact List.mem_append_right _ List.mem_cons_self
    -- Declarations are checked in order of their numbers, so the first is the lowest.
    have hpairs := hgraph.pairwise_declarations
    rw [hsplit] at hpairs
    obtain ⟨-, hbehind, -⟩ := List.pairwise_append.1 hpairs
    obtain ⟨again, hagain, rfl⟩ := hloop.onLoop.exists_declaration hgraph
    refine ⟨first, hfirst, again, hagain, hloop.endless, fun other hother hendless ↦ ?_, hloop, ?_⟩
    · rw [hsplit] at hother
      rcases List.mem_append.1 hother with hother | hother
      · exact absurd hendless (hbefore other hother)
      · rcases List.mem_cons.1 hother with rfl | hother
        · exact Nat.le_refl _
        · exact Nat.le_of_lt ((List.pairwise_cons.1 hbehind).1 other hother)
    · rw [hgraph.declarationName_eq hagain]
  · rintro ⟨first, hfirst, again, hagain, -, hlowest, hloop, rfl⟩
    obtain ⟨before, rest, hsplit⟩ := List.append_of_mem hfirst
    -- What stands before the lowest has a lower number, so it is not endless.
    have hpairs := hgraph.pairwise_declarations
    rw [hsplit] at hpairs
    obtain ⟨-, -, hahead⟩ := List.pairwise_append.1 hpairs
    refine ⟨before, first, rest, again.id, hsplit, fun one hone hendless ↦ ?_, hloop, ?_⟩
    · have hle := hlowest one (by rw [hsplit]; exact List.mem_append_left _ hone) hendless
      exact absurd (hahead one hone first List.mem_cons_self) (Nat.not_lt.2 hle)
    · rw [hgraph.declarationName_eq hagain]

end Check

/-! ### Drafts -/

/-- The identity that a name stands for among the accepted declarations. -/
def identityNamed (draft : Draft) (name : String) : Option DeclId :=
  (draft.declarations.find? fun declaration ↦ declaration.name = name).map (·.id)

/-- **A draft as it is written**: every parent is what the name of it stands for, and nothing is
checked. -/
def written (draft : Draft) : Graph where
  declarations := draft.pending.map fun pending ↦
    { pending.declaration with parent := pending.parentName.bind draft.identityNamed }
  modules := draft.modules

/-- Where parents are names of name scopes, a draft settles as it is written. -/
theorem settleParents_eq_written {draft : Draft} (hdraft : draft.Sound)
    (hparents : ∀ pending ∈ draft.pending, ∀ name, pending.parentName = some name →
      ∃ scope ∈ draft.declarations, scope.name = name ∧ scope.kind = .scope) :
    settleParents draft.declarations draft.pending = .ok draft.written.declarations := by
  obtain ⟨declarations, hsettled⟩ := exists_settleParents_eq_ok.2 fun pending hmem ↦
    (exists_settleParent_eq_ok hdraft.declaration_names).2 (hparents pending hmem)
  have hmap := map_of_settleParents (f := id)
    (g := fun pending ↦
      { pending.declaration with parent := pending.parentName.bind draft.identityNamed })
    hsettled fun pending hmem declaration hsettle ↦ ?_
  · rw [hsettled,
      show declarations = draft.written.declarations from (List.map_id _).symm.trans hmap]
  · obtain ⟨houtermost, hnested⟩ := parent_of_settleParent hsettle
    rcases hname : pending.parentName with - | name
    · have hnone := hdraft.unsettled _ (List.mem_map_of_mem hmem)
      rw [houtermost hname]
      show pending.declaration = { pending.declaration with parent := none }
      rw [← hnone]
    · obtain ⟨scope, hscope, hscopeName, -, rfl⟩ := hnested name hname
      have hidentity : draft.identityNamed name = some scope.id := by
        rw [identityNamed,
          (find?_eq_some_of_nodup hdraft.declaration_names).2 ⟨hscope, hscopeName⟩]
        rfl
      show _ = { pending.declaration with parent := draft.identityNamed name }
      rw [hidentity]
      rfl

end Draft

/-- **The scopes around a declaration of a built graph**, as following parents meets them without
any bound: distinct name scopes other than the declaration, each the parent of the one before, and
the last without a parent. -/
theorem Built.enclosingScopes_exact (h : graph.Built) {declaration : Declaration}
    (hmem : declaration ∈ graph.declarations) :
    (∀ steps, graph.above declaration.id (steps + 1) =
      (graph.enclosingScopes declaration)[steps]?.map (·.id)) ∧
    (graph.enclosingScopes declaration).length < graph.declarations.length ∧
    (∀ scope ∈ graph.enclosingScopes declaration, scope.kind = .scope) ∧
    (declaration :: graph.enclosingScopes declaration).Nodup ∧
    (declaration :: graph.enclosingScopes declaration).IsChain
      (fun inner outer ↦ inner.parent = some outer.id) ∧
    ((declaration :: graph.enclosingScopes declaration).getLast (List.cons_ne_nil _ _)).parent =
      none := by
  have hgraph := h.wellFormed
  have hscopes := h.nested_enclosingScopes hmem
  have hfound : graph.declaration? declaration.id = some declaration :=
    hgraph.declaration?_eq_some.2 ⟨hmem, rfl⟩
  have hself : graph.Nested (some declaration.id)
      (declaration :: graph.enclosingScopes declaration) := .inside hfound hscopes
  refine ⟨fun steps ↦ ?_, hself.length_le hgraph, hscopes.kind_eq hgraph hmem, hself.nodup,
    hscopes.isChain hgraph⟩
  exact hself.above_eq hgraph (steps + 1)

/-- **What the check of parents finds, and what it guarantees.** Take a draft whose parents are all
names of its name scopes. It is built exactly as if every chain of parents were followed by itself.
It is refused for its parents exactly if some chain never comes to the top level, and for nothing
else; what is reported then is the lowest declaration with such a chain, and the first declaration
on a loop that this chain comes to. In the graph of any draft that is built, following parents ends
within as many steps as there are declarations: the scopes around a declaration are distinct name
scopes other than itself, each the parent of the one before, and the last has no parent. -/
theorem Draft.parent_loops_found {draft : Draft} (hdraft : draft.Reached) :
    ((∀ pending ∈ draft.pending, ∀ name, pending.parentName = some name →
        ∃ scope ∈ draft.declarations, scope.name = name ∧ scope.kind = .scope) →
      draft.build =
        (checkEach draft.written draft.written.declarations).map (fun () ↦ draft.written) ∧
      ((∃ name parent, draft.build = .error (.cyclicParent name parent)) ↔
        ∃ declaration ∈ draft.written.declarations, draft.written.Endless declaration.id) ∧
      ∀ fault, draft.build = .error fault ↔
        ∃ first ∈ draft.written.declarations, ∃ again ∈ draft.written.declarations,
          draft.written.Endless first.id ∧
          (∀ other ∈ draft.written.declarations, draft.written.Endless other.id →
            first.id.number ≤ other.id.number) ∧
          draft.written.EntersLoop first.id again.id ∧
          fault = .cyclicParent first.name again.name) ∧
    ∀ graph, draft.build = .ok graph → ∀ declaration ∈ graph.declarations,
      (∀ steps, graph.above declaration.id (steps + 1) =
        (graph.enclosingScopes declaration)[steps]?.map (·.id)) ∧
      (graph.enclosingScopes declaration).length < graph.declarations.length ∧
      (∀ scope ∈ graph.enclosingScopes declaration, scope.kind = .scope) ∧
      (declaration :: graph.enclosingScopes declaration).Nodup ∧
      (declaration :: graph.enclosingScopes declaration).IsChain
        (fun inner outer ↦ inner.parent = some outer.id) ∧
      ((declaration :: graph.enclosingScopes declaration).getLast (List.cons_ne_nil _ _)).parent =
        none := by
  refine ⟨fun hparents ↦ ?_, fun graph hbuild declaration hmem ↦
    Built.enclosingScopes_exact ⟨draft, hdraft, hbuild⟩ hmem⟩
  have hsettled := settleParents_eq_written hdraft.sound hparents
  have hgraph : draft.written.WellFormed := hdraft.sound.wellFormed rfl hsettled
  have hbuild : draft.build =
      (checkEach draft.written draft.written.declarations).map fun () ↦ draft.written := by
    rw [build, hsettled]
    show (checkChains draft.written [] draft.written.declarations).map (fun () ↦ draft.written) = _
    rw [checkChains_eq_checkEach hgraph [] (by simp) (List.Subset.refl _)]
  have hfault (fault : Fault) : draft.build = .error fault ↔
      checkEach draft.written draft.written.declarations = .error fault := by
    rw [hbuild]
    rcases checkEach draft.written draft.written.declarations with other | _ <;> simp [Except.map]
  refine ⟨hbuild, ⟨?_, ?_⟩, fun fault ↦
    (hfault fault).trans (checkEach_declarations_eq_error_iff hgraph)⟩
  · rintro ⟨name, parent, herror⟩
    obtain ⟨first, hfirst, -, -, hendless, -⟩ :=
      (checkEach_declarations_eq_error_iff hgraph).1 ((hfault _).1 herror)
    exact ⟨first, hfirst, hendless⟩
  · rintro ⟨declaration, hmem, hendless⟩
    rcases hcheck : checkEach draft.written draft.written.declarations with fault | _
    · obtain ⟨first, -, again, -, -, -, -, rfl⟩ :=
        (checkEach_declarations_eq_error_iff hgraph).1 hcheck
      exact ⟨first.name, again.name, (hfault _).2 hcheck⟩
    · -- If the check passed, this chain would end too.
      rw [← checkChains_eq_checkEach hgraph [] (by simp) (List.Subset.refl _)] at hcheck
      have hends :=
        ends_of_checkChains hgraph (by simp) (List.Subset.refl _) hcheck declaration hmem
      exact absurd hendless ((ends_iff_not_endless hgraph hmem).1 hends)

/-- A history with a point in a library, and a leaf whose scopes lead into a loop of three. -/
def Draft.loopedCalls : List Call :=
  [.addModule "core" [],
    .addDeclaration ⟨"lib", .scope, "core", none, none, []⟩,
    .addDeclaration ⟨"lib::Point", .record, "core", some "lib", none, []⟩,
    .addDeclaration ⟨"Leaf", .record, "core", some "::tail", none, []⟩,
    .addDeclaration ⟨"a", .scope, "core", some "b", none, []⟩,
    .addDeclaration ⟨"b", .scope, "core", some "c", none, []⟩,
    .addDeclaration ⟨"c", .scope, "core", some "a", none, []⟩,
    .addDeclaration ⟨"tail", .scope, "core", some "b", none, []⟩]

/-- Of the looped history the leaf is reported, which is the first whose chain is endless, and with
it `b`, where the chain enters the loop. -/
theorem Draft.loopedCalls_refused :
    let draft := Draft.empty.callAll loopedCalls
    draft.Reached ∧
    (∀ pending ∈ draft.pending, ∀ name, pending.parentName = some name →
      ∃ scope ∈ draft.declarations, scope.name = name ∧ scope.kind = .scope) ∧
    draft.build = .error (.cyclicParent "Leaf" "b") ∧
    ∃ leaf ∈ draft.written.declarations, ∃ entry ∈ draft.written.declarations,
      leaf.name = "Leaf" ∧ entry.name = "b" ∧ draft.written.Endless leaf.id ∧
        draft.written.EntersLoop leaf.id entry.id := by
  intro draft
  have hdraft : draft.Reached := Reached.empty.callAll loopedCalls
  have hparents : ∀ pending ∈ draft.pending, ∀ name ∈ pending.parentName,
      ∃ scope ∈ draft.declarations, scope.name = name ∧ scope.kind = .scope := by decide
  have hbuild : draft.build = .error (.cyclicParent "Leaf" "b") := rfl
  obtain ⟨-, -, hreported⟩ := (Draft.parent_loops_found hdraft).1 hparents
  obtain ⟨leaf, hleaf, entry, hentry, hendless, -, henters, hfault⟩ := (hreported _).1 hbuild
  obtain ⟨hleafName, hentryName⟩ := Fault.cyclicParent.inj hfault
  exact ⟨hdraft, hparents, hbuild, leaf, hleaf, entry, hentry, hleafName.symm, hentryName.symm,
    hendless, henters⟩

end Exposure.Graph
