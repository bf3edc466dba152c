import Exposure.Proofs.Plan.Slots

/-!
# What is wanted

On an orderly graph the note of a visit can be told from the graph (`Graph.note?`): a bindable
declaration is exposed if it is visible, and an alias asks for the bindable target it requests.
So the slots of a survey are known, without any regard to the order in which the visible target
and its requesters were visited (`Survey.slots_ofRun`): there is one slot for each **wanted**
target, in the order of first mention, and it holds whether the target is visible, whether it is
hidden, and the requests of its requesters in traversal order (`Graph.slot`).
-/

namespace Exposure

/-- What is bindable is no alias. -/
theorem Declaration.isAlias_eq_false_of_isBindable {declaration : Declaration}
    (h : declaration.kind.isBindable) : declaration.isAlias = false := by
  rw [isAlias, decide_eq_false_iff_not]
  intro hkind
  rw [hkind] at h
  cases h

/-- Only `visible` lets a bindable declaration ask for exposure; the other directives that do
stand on aliases. -/
theorem Declaration.asksExposure_eq_carries_visible {declaration : Declaration}
    {annotations : Annotations} (hbindable : declaration.kind.isBindable)
    (hannotations : declaration.annotations = .ok annotations) :
    declaration.asksExposure = declaration.carries .visible := by
  have hnone (directive : Directive) (halias : ∀ site, directive.allowedOn site →
      site = .declaration .typeAlias) : Marks.carry declaration.marks directive = false := by
    rw [Bool.eq_false_iff]
    intro hcarry
    have hsite := halias _ (Annotations.allowedOn_of_read hannotations hcarry)
    rw [Site.declaration.injEq] at hsite
    rw [hsite] at hbindable
    cases hbindable
  rw [asksExposure, Marks.askExposure, hnone .encourage (by simp [Directive.allowedOn]),
    hnone .exposeHere (by simp [Directive.allowedOn]), Bool.or_false, Bool.or_false]
  rfl

namespace Graph

/-- What the visit of a declaration has to say about a target. -/
def note? (graph : Graph) (depth : Nat) (byDefault : Bool) (declaration : Declaration) :
    Option Note :=
  if declaration.kind.isBindable then
    if graph.isVisible byDefault declaration then some (.exposed declaration) else none
  else
    ((graph.target? depth declaration).filter fun target ↦
      target.kind.isBindable && graph.requests depth byDefault declaration target).map
        fun target ↦ .asked target (graph.request byDefault declaration)

/-- The notes of all visits in traversal order. -/
def notes (graph : Graph) (depth : Nat) (byDefault : Bool) : List Note :=
  graph.traversal.filterMap (graph.note? depth byDefault)

/-- The slot of a target as the graph tells it. -/
def slot (graph : Graph) (depth : Nat) (byDefault : Bool) (target : Declaration) : Slot where
  target := target
  direct := graph.isVisible byDefault target
  hidden := target.carries .hidden
  requests := (graph.requesters depth byDefault target).map (graph.request byDefault)

/-- The targets that somebody wants exposed, in the order of first mention. -/
def wanted (graph : Graph) (depth : Nat) (byDefault : Bool) : List Declaration :=
  ((graph.notes depth byDefault).map (·.target)).eraseDups

/-- Whether a declaration gives reason to expose a target: the target itself if it is visible,
an alias if it requests the target. -/
def prompts (graph : Graph) (depth : Nat) (byDefault : Bool) (target declaration : Declaration) :
    Bool :=
  (decide (declaration = target) && graph.isVisible byDefault target) ||
    graph.requests depth byDefault declaration target

variable {graph : Graph} {depth : Nat} {byDefault : Bool}

/-- Whether an alias requests a target, in words. -/
theorem requests_iff {asking target : Declaration} :
    graph.requests depth byDefault asking target ↔
      asking.isAlias ∧ graph.target? depth asking = some target ∧ ¬ asking.carries .hidden ∧
        (asking.asksExposure ∨ graph.isImplicit byDefault asking) := by
  simp [requests, and_assoc]

/-! ### Requests -/

section Requests

variable {declaration : Declaration}
  (hknown : ∀ name, Marks.destination? declaration.marks = some (.named name) →
    graph.containsModule name)
include hknown

/-- Where the site asked for is known, every `expose_here` mark designates one. -/
theorem isSome_site? : (graph.site? declaration).isSome = declaration.carries .exposeHere := by
  rw [Declaration.carries, ← Marks.isSome_destination?, site?]
  rcases hdestination : Marks.destination? declaration.marks with - | - | name
  · rfl
  · rfl
  · simpa [containsModule] using hknown name hdestination

/-- Where the site asked for is known, a request is explicit if the alias asks for exposure. -/
theorem isExplicit_request :
    (graph.request byDefault declaration).isExplicit = declaration.asksExposure := by
  rw [Alias.Request.isExplicit, request, isSome_site? hknown]
  rfl

end Requests

end Graph

namespace Survey

variable {graph : Graph} {depth : Nat} {byDefault : Bool} {declaration : Declaration}
  {annotations : Annotations}

/-- Where the site asked for is known, it is the one the marks designate. -/
theorem emissionSite_ofGraph (hannotations : declaration.annotations = .ok annotations)
    (hknown : ∀ name, Marks.destination? declaration.marks = some (.named name) →
      graph.containsModule name) :
    emissionSite (Run.ofGraph graph depth byDefault) declaration annotations =
      .ok (graph.site? declaration) := by
  rw [emissionSite, Annotations.destination?_of_read hannotations, Graph.site?]
  rcases hdestination : Marks.destination? declaration.marks with - | - | name
  · rfl
  · rfl
  · obtain ⟨module, hmodule⟩ := Option.isSome_iff_exists.1 (hknown name hdestination)
    simp [hmodule]

variable (hgraph : graph.WellFormed) (hread : graph.MarksRead)
  (hmem : declaration ∈ graph.declarations)
include hgraph hread hmem

/-- What an alias asks for is its request. -/
theorem requestOf_ofGraph (hannotations : declaration.annotations = .ok annotations) :
    requestOf (Run.ofGraph graph depth byDefault) declaration annotations
      (graph.site? declaration) = graph.request byDefault declaration := by
  have hunset := Annotations.standing_eq_unset_of_read hannotations
  have himplicit : (decide (annotations.standing = .unset) &&
      (Run.ofGraph graph depth byDefault).inheritedExposure declaration) =
        graph.isImplicit byDefault declaration := by
    rw [Run.inheritedExposure_ofGraph hgraph depth byDefault hread hmem, Graph.isImplicit,
      Bool.eq_iff_iff]
    simp [hunset, Declaration.asksExposure, Declaration.carries]
  rw [requestOf, Graph.request, himplicit, Annotations.has_of_read hannotations,
    Annotations.has_of_read hannotations]
  rfl

/-! ### The slots of one visit -/

/-- The visit of an alias with a bindable target requests the target if the alias does. -/
theorem slots_visitBinding (horder : graph.InOrder depth declaration) {target : Declaration}
    (halias : declaration.isAlias) (htarget : graph.target? depth declaration = some target)
    (hbindable : target.kind.isBindable)
    (hannotations : declaration.annotations = .ok annotations) (survey : Survey) :
    (survey.visitBinding (Run.ofGraph graph depth byDefault) declaration annotations target).slots =
      if graph.requests depth byDefault declaration target then
        Note.into (Run.ofGraph graph depth byDefault) survey.slots
          (.asked target (graph.request byDefault declaration))
      else survey.slots := by
  have hhidden := Annotations.standing_eq_hidden_of_read hannotations
  unfold visitBinding
  dsimp only
  split
  · rename_i hstanding
    rw [if_neg fun h ↦ (Graph.requests_iff.1 h).2.2.1 (hhidden.1 hstanding).2]
  · rename_i hstanding
    have hshown : ¬ declaration.carries .hidden := fun h ↦
      hstanding (hhidden.2 ⟨by simpa using horder.agrees, h⟩)
    -- The alias is not hidden, so the site it asks for is known and only the request is left.
    have hknown := horder.site_known halias hshown target htarget hbindable
    rw [emissionSite_ofGraph hannotations hknown]
    dsimp only
    rw [requestOf_ofGraph hgraph hread hmem hannotations, Graph.isExplicit_request hknown]
    have hrequests : graph.requests depth byDefault declaration target ↔
        (declaration.asksExposure || (graph.request byDefault declaration).implicit) := by
      rw [Graph.requests_iff, Bool.or_eq_true]
      exact ⟨fun h ↦ h.2.2.2, fun h ↦ ⟨halias, htarget, hshown, h⟩⟩
    by_cases h : graph.requests depth byDefault declaration target
    · rw [if_pos h, if_pos (hrequests.1 h)]
      rfl
    · rw [if_neg h, if_neg fun h' ↦ h (hrequests.2 h')]

/-- The visit of a bindable declaration exposes it if it is visible. -/
theorem slots_visitBindable (hbindable : declaration.kind.isBindable)
    (hagrees : annotations.standing ≠ .conflict)
    (hannotations : declaration.annotations = .ok annotations) (survey : Survey) :
    (survey.visitBindable (Run.ofGraph graph depth byDefault) declaration annotations).slots =
      if graph.isVisible byDefault declaration then
        Note.into (Run.ofGraph graph depth byDefault) survey.slots (.exposed declaration)
      else survey.slots := by
  have hasks := Declaration.asksExposure_eq_carries_visible hbindable hannotations
  have hinherits := Run.inheritedExposure_ofGraph hgraph depth byDefault hread hmem
  rw [visitBindable, Graph.isVisible, Graph.isImplicit, hasks, hinherits]
  cases hstanding : annotations.standing with
  | conflict => exact absurd hstanding hagrees
  | visible =>
    obtain ⟨hvisible, -⟩ := (Annotations.standing_eq_visible_of_read hannotations).1 hstanding
    have hcarries : declaration.carries .visible := hasks.symm.trans hvisible
    rw [hcarries, Bool.true_or, if_pos rfl]
    rfl
  | hidden =>
    -- What hides does not ask for exposure besides.
    obtain ⟨hnone, hcarry⟩ := (Annotations.standing_eq_hidden_of_read hannotations).1 hstanding
    have hhidden : declaration.carries .hidden := hcarry
    have hcarries : declaration.carries .visible = false := by
      rw [Marks.conflict, hcarry, Bool.and_true] at hnone
      exact hasks.symm.trans hnone
    rw [hcarries, hhidden, Bool.not_true, Bool.and_false, Bool.false_and, Bool.or_false]
    rfl
  | unset =>
    obtain ⟨hunset, hshown⟩ := (Annotations.standing_eq_unset_of_read hannotations).1 hstanding
    have hcarries : declaration.carries .visible = false := hasks.symm.trans hunset
    have hhidden : declaration.carries .hidden = false := hshown
    simp only [hcarries, hhidden, Bool.not_false, Bool.true_and, Bool.false_or]
    split <;> rfl

/-- **A visit takes its note into the slots**, if it has one to take. -/
theorem slots_visit (horder : graph.InOrder depth declaration) (survey : Survey) :
    (survey.visit (Run.ofGraph graph depth byDefault) declaration).slots =
      (graph.note? depth byDefault declaration).toList.foldl
        (Note.into (Run.ofGraph graph depth byDefault)) survey.slots := by
  obtain ⟨annotations, hannotations⟩ := hread.annotations hmem
  have hagrees : annotations.standing ≠ .conflict := fun h ↦
    horder.agrees ((Annotations.standing_eq_conflict_of_read hannotations).1 h)
  rw [visit, Run.get?_store_ofGraph hgraph depth byDefault hmem hannotations]
  dsimp only
  cases hkind : declaration.kind with
  | scope =>
    -- A name scope is neither bindable nor an alias, so it has no note.
    have hnote : graph.note? depth byDefault declaration = none := by
      simp [Graph.note?, Graph.requests, Declaration.isAlias, hkind, Kind.isBindable]
    rw [hnote]
    simp [visitScope, hagrees]
  | typeAlias =>
    have halias : declaration.isAlias := by simp [Declaration.isAlias, hkind]
    obtain ⟨chain, hchain⟩ := horder.resolves halias
    have htarget : graph.target? depth declaration = some chain.target := by
      simp [Graph.target?, hchain, Except.toOption]
    -- An alias has a note exactly if its target is bindable and it asks something of it.
    have hnote : graph.note? depth byDefault declaration =
        if chain.target.kind.isBindable ∧ graph.requests depth byDefault declaration chain.target
        then some (.asked chain.target (graph.request byDefault declaration)) else none := by
      rw [Graph.note?, hkind, htarget, if_neg (by simp [Kind.isBindable]), Option.filter_some]
      simp only [Bool.and_eq_true]
      split <;> rfl
    dsimp only
    rw [visitAlias, if_neg hagrees, get?_chains_ofGraph hgraph depth byDefault hmem,
      if_pos halias, hchain, hnote]
    dsimp only
    by_cases hbindable : chain.target.kind.isBindable
    · rw [if_pos hbindable, slots_visitBinding hgraph hread hmem horder halias htarget hbindable
        hannotations, slots_reportKnown]
      simp only [hbindable, true_and]
      split <;> rfl
    · rw [if_neg hbindable, if_neg fun h ↦ hbindable h.1, slots_reportKnown]
      rfl
  | record | function | enumeration =>
    have hbindable : declaration.kind.isBindable := by simp [hkind, Kind.isBindable]
    dsimp only
    rw [slots_visitBindable hgraph hread hmem hbindable hagrees hannotations, Graph.note?,
      if_pos hbindable, slots_reportKnown]
    split <;> rfl

end Survey

/-! ### The slots of a pass -/

/-- The notes of a visit; that of a module scope has none. -/
def Visit.notes (graph : Graph) (depth : Nat) (byDefault : Bool) : Visit → List Note
  | scope _ => []
  | member declaration => (graph.note? depth byDefault declaration).toList

namespace Graph

variable {graph : Graph} {depth : Nat} {byDefault : Bool}

/-- The notes of a graph are those of its visits. -/
theorem flatMap_notes_visits :
    graph.visits.flatMap (Visit.notes graph depth byDefault) = graph.notes depth byDefault := by
  simp only [visits, notes, traversal, List.flatMap_assoc, List.flatMap_cons, List.flatMap_map,
    Visit.notes, List.nil_append, List.filterMap_eq_flatMap_toList]

/-- What a note says, in words. -/
theorem note?_eq_some {declaration : Declaration} {note : Note} :
    graph.note? depth byDefault declaration = some note ↔
      (declaration.kind.isBindable ∧ graph.isVisible byDefault declaration ∧
        note = .exposed declaration) ∨
      ∃ target, target.kind.isBindable ∧ graph.requests depth byDefault declaration target ∧
        note = .asked target (graph.request byDefault declaration) := by
  rw [note?]
  by_cases hbindable : declaration.kind.isBindable
  · have hnone (target : Declaration) : ¬ graph.requests depth byDefault declaration target := by
      rw [requests_iff, Declaration.isAlias_eq_false_of_isBindable hbindable]
      rintro ⟨⟨⟩, -⟩
    by_cases hvisible : graph.isVisible byDefault declaration
    · simp [hbindable, hvisible, hnone, eq_comm (a := note)]
    · simp [hbindable, hvisible, hnone]
  · rw [if_neg hbindable, Option.map_eq_some_iff]
    constructor
    · rintro ⟨target, htarget, rfl⟩
      rw [Option.filter_eq_some_iff, Bool.and_eq_true] at htarget
      exact .inr ⟨target, htarget.2.1, htarget.2.2, rfl⟩
    · rintro (h | ⟨target, htarget, hrequests, rfl⟩)
      · exact absurd h.1 hbindable
      · refine ⟨target, ?_, rfl⟩
        rw [Option.filter_eq_some_iff, Bool.and_eq_true]
        exact ⟨(requests_iff.1 hrequests).2.1, htarget, hrequests⟩

/-- A visit has a note about a target exactly if what is visited prompts it. -/
theorem target_note?_eq_some {declaration target : Declaration}
    (hbindable : target.kind.isBindable) :
    (graph.note? depth byDefault declaration).map (·.target) = some target ↔
      graph.prompts depth byDefault target declaration := by
  simp only [Option.map_eq_some_iff, note?_eq_some, prompts, Bool.or_eq_true, Bool.and_eq_true,
    decide_eq_true_iff]
  constructor
  · rintro ⟨note, ⟨-, hvisible, rfl⟩ | ⟨other, -, hrequests, rfl⟩, rfl⟩
    · exact .inl ⟨rfl, hvisible⟩
    · exact .inr hrequests
  · rintro (⟨rfl, hvisible⟩ | hrequests)
    · exact ⟨_, .inl ⟨hbindable, hvisible, rfl⟩, rfl⟩
    · exact ⟨_, .inr ⟨target, hbindable, hrequests, rfl⟩, rfl⟩

/-- The request that a visit notes for a target is the one that what is visited makes. -/
theorem requestFor?_note? {declaration target : Declaration} (hbindable : target.kind.isBindable) :
    (graph.note? depth byDefault declaration).bind (·.requestFor? target) =
      if graph.requests depth byDefault declaration target then
        some (graph.request byDefault declaration)
      else none := by
  split
  · rename_i hrequests
    rw [note?_eq_some.2 (.inr ⟨target, hbindable, hrequests, rfl⟩)]
    simp [Note.requestFor?]
  · rename_i hrequests
    rw [Option.bind_eq_none_iff]
    intro note hnote
    rcases note?_eq_some.1 hnote with ⟨-, -, rfl⟩ | ⟨other, -, hother, rfl⟩
    · rfl
    · refine if_neg ?_
      rintro rfl
      exact hrequests hother

/-- Some visit notes that a target is visible exactly if it is. -/
theorem any_exposes_notes (hgraph : graph.WellFormed) {target : Declaration}
    (hmem : target ∈ graph.declarations) (hbindable : target.kind.isBindable) :
    (graph.notes depth byDefault).any (·.exposes target) = graph.isVisible byDefault target := by
  rw [Bool.eq_iff_iff, List.any_eq_true]
  constructor
  · rintro ⟨note, hnote, hexposes⟩
    obtain ⟨declaration, -, hdeclaration⟩ := List.mem_filterMap.1 hnote
    rcases note?_eq_some.1 hdeclaration with ⟨-, hvisible, rfl⟩ | ⟨other, -, -, rfl⟩
    · obtain rfl : declaration = target := by simpa [Note.exposes] using hexposes
      exact hvisible
    · cases hexposes
  · intro hvisible
    refine ⟨.exposed target, List.mem_filterMap.2 ⟨target, hgraph.mem_traversal.2 hmem, ?_⟩, ?_⟩
    · exact note?_eq_some.2 (.inl ⟨hbindable, hvisible, rfl⟩)
    · simp [Note.exposes]

/-- What is gathered for a target is its slot. -/
theorem gathered_notes (hgraph : graph.WellFormed) {run : Run} {target : Declaration}
    (hmem : target ∈ graph.declarations) (hbindable : target.kind.isBindable)
    (hhidden : run.isHidden target = target.carries .hidden) :
    Slot.gathered run (graph.notes depth byDefault) target = graph.slot depth byDefault target := by
  have hrequests : (graph.notes depth byDefault).filterMap (·.requestFor? target) =
      (graph.requesters depth byDefault target).map (graph.request byDefault) := by
    rw [notes, List.filterMap_filterMap, requesters, ← List.filterMap_eq_map,
      List.filterMap_filter]
    exact List.filterMap_congr fun declaration _ ↦ requestFor?_note? hbindable
  rw [Slot.gathered, any_exposes_notes hgraph hmem hbindable, hrequests, hhidden, slot]

/-- Notes are about bindable declarations of the graph. -/
theorem target_of_mem_notes (hgraph : graph.WellFormed) {note : Note}
    (hnote : note ∈ graph.notes depth byDefault) :
    note.target ∈ graph.declarations ∧ note.target.kind.isBindable := by
  obtain ⟨declaration, hmem, hdeclaration⟩ := List.mem_filterMap.1 hnote
  have hdeclared := hgraph.mem_traversal.1 hmem
  rcases note?_eq_some.1 hdeclaration with ⟨hbindable, -, rfl⟩ | ⟨target, hbindable, hrequests, rfl⟩
  · exact ⟨hdeclared, hbindable⟩
  · exact ⟨target?_mem hdeclared (requests_iff.1 hrequests).2.1, hbindable⟩

/-! ### Wanted targets -/

/-- **Who is wanted**: the bindable declarations that are visible or requested. -/
theorem mem_wanted (hgraph : graph.WellFormed) {target : Declaration} :
    target ∈ graph.wanted depth byDefault ↔
      target ∈ graph.declarations ∧ target.kind.isBindable ∧
        (graph.isVisible byDefault target ∨
          ∃ asking ∈ graph.declarations, graph.requests depth byDefault asking target) := by
  rw [wanted, List.mem_eraseDups, List.mem_map]
  constructor
  · rintro ⟨note, hnote, rfl⟩
    obtain ⟨hmem, hbindable⟩ := target_of_mem_notes hgraph hnote
    refine ⟨hmem, hbindable, ?_⟩
    obtain ⟨declaration, hdeclaration, hsome⟩ := List.mem_filterMap.1 hnote
    rcases note?_eq_some.1 hsome with ⟨-, hvisible, rfl⟩ | ⟨target, -, hrequests, rfl⟩
    · exact .inl hvisible
    · exact .inr ⟨declaration, hgraph.mem_traversal.1 hdeclaration, hrequests⟩
  · rintro ⟨hmem, hbindable, hvisible | ⟨asking, hasking, hrequests⟩⟩
    · have hnote : graph.note? depth byDefault target = some (.exposed target) :=
        note?_eq_some.2 (.inl ⟨hbindable, hvisible, rfl⟩)
      exact ⟨_, List.mem_filterMap.2 ⟨target, hgraph.mem_traversal.2 hmem, hnote⟩, rfl⟩
    · have hnote : graph.note? depth byDefault asking =
          some (.asked target (graph.request byDefault asking)) :=
        note?_eq_some.2 (.inr ⟨target, hbindable, hrequests, rfl⟩)
      exact ⟨_, List.mem_filterMap.2 ⟨asking, hgraph.mem_traversal.2 hasking, hnote⟩, rfl⟩

theorem nodup_wanted : (graph.wanted depth byDefault).Nodup := nodup_eraseDups _

/-- **Wanted targets are in the order of their first prompts.** -/
theorem pairwise_wanted (hgraph : graph.WellFormed) :
    (graph.wanted depth byDefault).Pairwise fun a b ↦
      graph.traversal.findIdx (graph.prompts depth byDefault a) <
        graph.traversal.findIdx (graph.prompts depth byDefault b) := by
  have hwanted : graph.wanted depth byDefault =
      (graph.traversal.filterMap fun declaration ↦
        (graph.note? depth byDefault declaration).map (·.target)).eraseDups := by
    rw [wanted, notes, List.map_filterMap]
  -- A visit mentions a wanted target exactly if what is visited prompts it.
  have hprompts : ∀ target ∈ graph.wanted depth byDefault,
      (fun declaration ↦ decide ((graph.note? depth byDefault declaration).map (·.target) =
        some target)) = graph.prompts depth byDefault target := by
    intro target htarget
    funext declaration
    rw [Bool.eq_iff_iff, decide_eq_true_iff]
    exact target_note?_eq_some ((mem_wanted hgraph).1 htarget).2.1
  have hpairs := pairwise_eraseDups_filterMap
    (fun declaration ↦ (graph.note? depth byDefault declaration).map (·.target)) graph.traversal
  rw [← hwanted] at hpairs
  refine hpairs.imp_of_mem fun {a b} ha hb hlt ↦ ?_
  rwa [hprompts a ha, hprompts b hb] at hlt

end Graph

namespace Survey

variable {graph : Graph} {depth : Nat} {byDefault : Bool}

/-- A visit of an orderly graph takes its notes into the slots. -/
theorem slots_make (hgraph : graph.WellFormed) (horderly : graph.Orderly depth) {visit : Visit}
    (hvisit : visit.Within graph) (survey : Survey) :
    (survey.make (Run.ofGraph graph depth byDefault) visit).slots =
      (visit.notes graph depth byDefault).foldl
        (Note.into (Run.ofGraph graph depth byDefault)) survey.slots := by
  have hread := horderly.marksRead
  cases visit with
  | member declaration =>
    exact slots_visit hgraph hread hvisit (horderly.declarations declaration hvisit) survey
  | scope module =>
    obtain ⟨annotations, hannotations⟩ := hread.moduleAnnotations hvisit
    rw [make, visitModule,
      Run.getModule?_store_ofGraph hgraph depth byDefault hvisit hannotations]
    dsimp only
    split <;> rfl

/-- The slots of a pass are the notes of its visits, taken in one by one. -/
theorem slots_foldl_make (hgraph : graph.WellFormed) (horderly : graph.Orderly depth)
    {visits : List Visit} (hvisits : ∀ visit ∈ visits, visit.Within graph) (survey : Survey) :
    (visits.foldl (make (Run.ofGraph graph depth byDefault)) survey).slots =
      (visits.flatMap (Visit.notes graph depth byDefault)).foldl
        (Note.into (Run.ofGraph graph depth byDefault)) survey.slots := by
  induction visits generalizing survey with
  | nil => rfl
  | cons visit visits ih =>
    obtain ⟨hvisit, hrest⟩ := List.forall_mem_cons.1 hvisits
    rw [List.foldl_cons, ih hrest, slots_make hgraph horderly hvisit, List.flatMap_cons,
      List.foldl_append]

/-- **The slots of a survey**: one for each wanted target, with what the graph tells of it. -/
theorem slots_ofRun (hgraph : graph.WellFormed) (horderly : graph.Orderly depth) :
    (ofRun (Run.ofGraph graph depth byDefault)).slots =
      (graph.wanted depth byDefault).map (graph.slot depth byDefault) := by
  rw [ofRun_eq, Run.graph_ofGraph, slots_foldl_make hgraph horderly
    fun visit hvisit ↦ hgraph.mem_visits.1 hvisit, Graph.flatMap_notes_visits]
  rw [show Survey.empty.slots = [] from rfl, foldl_into _ fun a ha b hb hid ↦
    hgraph.declaration_unique (Graph.target_of_mem_notes hgraph ha).1
      (Graph.target_of_mem_notes hgraph hb).1 hid]
  refine List.map_congr_left fun target htarget ↦ ?_
  obtain ⟨hmem, hbindable, -⟩ := (Graph.mem_wanted hgraph).1 htarget
  exact Graph.gathered_notes hgraph hmem hbindable (Run.isHidden_ofGraph hgraph depth byDefault
    horderly.marksRead hmem (horderly.declarations target hmem).agrees)

end Survey
end Exposure
