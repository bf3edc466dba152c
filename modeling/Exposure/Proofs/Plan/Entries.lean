import Mathlib.Data.List.Find
import Exposure.Proofs.Plan.Wanted

/-!
# Entries

What a wanted target comes to is decided by its requesters in traversal order: one of them may
give it its external name (`Graph.namer?`), those with an `expose_here` mark say where it is
emitted (`Graph.emissionModule`), and some are bound to it (`Graph.binders`). From these the
entry of the target is told (`Graph.entry`), and the records that go with it (`Graph.records`).

This file shows that deciding the slot of a target comes to this entry and these records
(`Graph.verdict_slot_eq_emitted`), provided that at most one requester wants to name the target
and that all agree about the site (`Graph.Emittable`). If they do not, there is a problem
(`Graph.problem?_verdict_slot`).
-/

namespace Exposure

/-- The precedence of candidates for a name, when no two are encouraged. -/
theorem Alias.chooseName_eq {targetName targetShortName : String} {direct : Bool}
    {requests : List Request} (hone : (requests.filter (·.encourage)).length ≤ 1) :
    chooseName targetName targetShortName direct requests = .ok
      (((requests.find? (·.encourage)).map (·.choice .encouraged)).or <|
        ((requests.find? (·.relocateTo.isSome)).map (·.choice .relocation)).or <|
          if direct then some ⟨targetShortName, .target⟩
          else ((requests.find? (·.forward)).map (·.choice .forwarded)).or
            ((requests.find? (·.implicit)).map (·.choice .promoted))) := by
  have hhead : requests.find? (·.encourage) = (requests.filter (·.encourage)).head? :=
    List.head?_filter.symm
  rw [chooseName, hhead]
  rcases hencouraged : requests.filter (·.encourage) with - | ⟨first, - | ⟨second, rest⟩⟩
  · rw [hencouraged]
    rcases hrelocating : requests.find? (·.relocateTo.isSome) with - | request
    · rw [hrelocating]
      cases direct
      · rcases hforwarding : requests.find? (·.forward) with - | request <;>
          rw [hforwarding] <;> rfl
      · rfl
    · rw [hrelocating]
      rfl
  · rw [hencouraged]
    rfl
  · rw [hencouraged] at hone
    simp at hone

/-- Two encouraged requests contradict each other, and all that are encouraged are named. -/
theorem Alias.chooseName_eq_error {targetName targetShortName : String} {direct : Bool}
    {requests : List Request} (hmore : ¬ (requests.filter (·.encourage)).length ≤ 1) :
    chooseName targetName targetShortName direct requests =
      .error (.ambiguousEncouragement targetName
        ((requests.filter (·.encourage)).map (·.qualifiedName))) := by
  rcases hencouraged : requests.filter (·.encourage) with - | ⟨first, - | ⟨second, rest⟩⟩
  · simp [hencouraged] at hmore
  · simp [hencouraged] at hmore
  · rw [chooseName, hencouraged]

namespace Slot

/-- The sites asked for with the aliases that ask, in order and with repetitions. -/
def asked (slot : Slot) : List (ModuleId × DeclId) :=
  slot.requests.filterMap fun request ↦ request.relocateTo.map (·, request.aliasId)

/-- Of the pairs asked for, the first for each site counts. -/
theorem sites_eq (slot : Slot) :
    slot.sites = (slot.asked.map (·.1)).eraseDups.filterMap fun site ↦
      slot.asked.find? (·.1 = site) := rfl

/-- The first site asked for is that of the first request for one. -/
theorem head?_sites (slot : Slot) :
    slot.sites.head? = slot.requests.findSome? fun request ↦
      request.relocateTo.map (·, request.aliasId) := by
  have hhead : slot.asked.head? = slot.requests.findSome? fun request ↦
      request.relocateTo.map (·, request.aliasId) := List.head?_filterMap
  rw [sites_eq, List.head?_filterMap, ← hhead]
  generalize slot.asked = asked
  rcases asked with - | ⟨first, rest⟩
  · rfl
  · rw [List.map_cons, List.eraseDups_cons, List.findSome?_cons, List.find?_cons_of_pos (by simp)]
    rfl

/-- Each site is asked for once. -/
theorem map_fst_sites (slot : Slot) :
    slot.sites.map (·.1) = (slot.requests.filterMap (·.relocateTo)).eraseDups := by
  have hasked : slot.asked.map (·.1) = slot.requests.filterMap (·.relocateTo) := by
    rw [asked, List.map_filterMap]
    refine List.filterMap_congr fun request _ ↦ ?_
    cases request.relocateTo <;> rfl
  -- Each site is found, for it was asked for.
  have hfirst : ∀ site ∈ (slot.asked.map (·.1)).eraseDups,
      (slot.asked.find? (·.1 = site)).map (·.1) = some site := by
    intro site hsite
    obtain ⟨pair, hpair, rfl⟩ := List.mem_map.1 (List.mem_eraseDups.1 hsite)
    have hsome : (slot.asked.find? (·.1 = pair.1)).isSome :=
      List.find?_isSome.2 ⟨pair, hpair, by simp⟩
    obtain ⟨found, hfound⟩ := Option.isSome_iff_exists.1 hsome
    have hkey : found.1 = pair.1 := by simpa using List.find?_some hfound
    rw [hfound, Option.map_some, hkey]
  rw [sites_eq, List.map_filterMap, List.filterMap_congr hfirst, List.filterMap_some, hasked]

/-- No more than one site is asked for exactly if all requests agree. -/
theorem length_sites_le_one (slot : Slot) :
    slot.sites.length ≤ 1 ↔
      ∀ a ∈ slot.requests, ∀ b ∈ slot.requests, ∀ site other,
        a.relocateTo = some site → b.relocateTo = some other → site = other := by
  rw [← List.length_map (·.1), map_fst_sites, length_le_one_iff (nodup_eraseDups _)]
  simp only [List.mem_eraseDups, List.mem_filterMap]
  constructor
  · exact fun h a ha b hb site other hsite hother ↦ h site ⟨a, ha, hsite⟩ other ⟨b, hb, hother⟩
  · rintro h site ⟨a, ha, hsite⟩ other ⟨b, hb, hother⟩
    exact h a ha b hb site other hsite hother

/-- A slot with a name and no more than one site is emitted. -/
theorem verdict_eq_emit {graph : Graph} {slot : Slot} {choice : Alias.NameChoice}
    (hshown : slot.hidden = false)
    (hname : Alias.chooseName slot.target.name slot.target.shortName slot.direct slot.requests =
      .ok (some choice)) (hsites : slot.sites.length ≤ 1) :
    slot.verdict graph =
      slot.emit choice (slot.sites.head?.filter fun (site, _) ↦ site ≠ slot.target.module) := by
  rw [verdict, hshown, if_neg Bool.false_ne_true, hname]
  dsimp only
  split
  · rename_i hsites'
    rw [hsites'] at hsites
    simp at hsites
  · rfl

/-- The problem of a slot with two encouraged requests is that they contradict each other. -/
theorem problem?_verdict_of_encourage {graph : Graph} {slot : Slot} (hshown : slot.hidden = false)
    (hmore : ¬ (slot.requests.filter (·.encourage)).length ≤ 1) :
    (slot.verdict graph).problem? = some (.ambiguousEncouragement slot.target.name
      ((slot.requests.filter (·.encourage)).map (·.qualifiedName))) := by
  rw [verdict, hshown, if_neg Bool.false_ne_true, Alias.chooseName_eq_error hmore]
  rfl

/-- The problem of a slot with a name and two sites is that the sites contradict each other. -/
theorem problem?_verdict_of_sites {graph : Graph} {slot : Slot} {choice : Alias.NameChoice}
    (hshown : slot.hidden = false)
    (hname : Alias.chooseName slot.target.name slot.target.shortName slot.direct slot.requests =
      .ok (some choice)) (hsites : ¬ slot.sites.length ≤ 1) :
    (slot.verdict graph).problem? = some (.duplicateEmission slot.target.name
      ((slot.sites.map (·.1)).map graph.moduleName)) := by
  rw [verdict, hshown, if_neg Bool.false_ne_true, hname]
  rcases h : slot.sites with - | ⟨first, - | ⟨second, rest⟩⟩
  · simp [h] at hsites
  · simp [h] at hsites
  · dsimp only
    rw [List.map_map]
    rfl

end Slot

namespace Graph

/-- The alias that gives a target its external name: the encouraged one, else the first with an
`expose_here` mark; else, unless the target is visible itself, the first that is marked visible,
or else the first that is visible by its surroundings. Without one the target keeps its own
name. -/
def namer? (graph : Graph) (depth : Nat) (byDefault : Bool) (target : Declaration) :
    Option Declaration :=
  let asking := graph.requesters depth byDefault target
  (asking.find? (·.carries .encourage)).or <| (asking.find? (·.carries .exposeHere)).or <|
    if graph.isVisible byDefault target then none
    else (asking.find? (·.carries .visible)).or (asking.find? (graph.isImplicit byDefault))

/-- The module that a target is emitted in: the one that its requesters designate, else home. -/
def emissionModule (graph : Graph) (depth : Nat) (byDefault : Bool) (target : Declaration) :
    ModuleId :=
  ((graph.requesters depth byDefault target).findSome? graph.site?).getD target.module

/-- The requesters that are bound to a target: those marked visible, and the one that gives it
its name. -/
def binders (graph : Graph) (depth : Nat) (byDefault : Bool) (target : Declaration) :
    List Declaration :=
  (graph.requesters depth byDefault target).filter fun asking ↦
    asking.carries .visible || graph.namer? depth byDefault target = some asking

/-- How a target comes to be exposed. -/
def exposure (graph : Graph) (depth : Nat) (byDefault : Bool) (target : Declaration) : Exposed :=
  if graph.emissionModule depth byDefault target ≠ target.module then .relocated
  else if graph.isVisible byDefault target then .direct
  else .forwardedAlias

/-- The entry of a target. -/
def entry (graph : Graph) (depth : Nat) (byDefault : Bool) (target : Declaration) :
    PlanEntry where
  canonical := target.id
  qualifiedName := target.name
  kind := target.kind
  homeModule := target.module
  emissionModule := graph.emissionModule depth byDefault target
  externalName := ((graph.namer? depth byDefault target).getD target).shortName
  exposure := graph.exposure depth byDefault target
  namedBy := (graph.namer? depth byDefault target).map (·.id)
  forwarded :=
    ((graph.requesters depth byDefault target).filter fun asking ↦
      asking.carries .visible && graph.namer? depth byDefault target ≠ some asking).map
        fun asking ↦ ⟨asking.id, asking.module, asking.shortName⟩

/-- The relocation of a target that is not emitted at home. -/
def relocation? (graph : Graph) (depth : Nat) (byDefault : Bool) (target : Declaration) :
    Option Import.Relocation :=
  let site := graph.emissionModule depth byDefault target
  if site = target.module then none
  else ((graph.requesters depth byDefault target).find? (graph.site? · = some site)).map
    fun via ↦ ⟨target.id, target.module, site, via.id⟩

/-- The records that go with an entry: its relocation, and a reference for each binder. -/
def records (graph : Graph) (depth : Nat) (byDefault : Bool) (target : Declaration) :
    List Import.Record :=
  (graph.relocation? depth byDefault target).toList.map .relocation ++
    (graph.binders depth byDefault target).map fun binder ↦
      .reference binder.module (graph.emissionModule depth byDefault target) binder.id

/-- **Nothing stands against emitting a target**: at most one requester is encouraged to name
it, and those that designate a site designate the same. -/
structure Emittable (graph : Graph) (depth : Nat) (byDefault : Bool) (target : Declaration) :
    Prop where
  one_encouraged : ∀ a ∈ graph.requesters depth byDefault target,
    ∀ b ∈ graph.requesters depth byDefault target,
      a.carries .encourage → b.carries .encourage → a = b
  one_site : ∀ a ∈ graph.requesters depth byDefault target,
    ∀ b ∈ graph.requesters depth byDefault target, ∀ site other,
      graph.site? a = some site → graph.site? b = some other → site = other

variable {graph : Graph} {depth : Nat} {byDefault : Bool} {target : Declaration}

/-! ### Requesters -/

/-- Requesters are the declarations of the graph that request. -/
theorem mem_requesters (hgraph : graph.WellFormed) {asking : Declaration} :
    asking ∈ graph.requesters depth byDefault target ↔
      asking ∈ graph.declarations ∧ graph.requests depth byDefault asking target := by
  rw [requesters, List.mem_filter, hgraph.mem_traversal]

theorem nodup_requesters (hgraph : graph.WellFormed) :
    (graph.requesters depth byDefault target).Nodup :=
  hgraph.traversal_nodup.filter _

/-- On an orderly graph the sites that requesters of a bindable target ask for are known. -/
theorem Orderly.site_known (horderly : graph.Orderly depth) (hgraph : graph.WellFormed)
    (hbindable : target.kind.isBindable) {asking : Declaration}
    (hasking : asking ∈ graph.requesters depth byDefault target) (name : String)
    (hname : Marks.destination? asking.marks = some (.named name)) :
    graph.containsModule name := by
  obtain ⟨hmem, hrequests⟩ := (mem_requesters hgraph).1 hasking
  obtain ⟨halias, htarget, hshown, -⟩ := requests_iff.1 hrequests
  exact (horderly.declarations asking hmem).site_known halias hshown target htarget hbindable name
    hname

/-- Who gives a target its name requests it. -/
theorem mem_requesters_of_namer? {asking : Declaration}
    (h : graph.namer? depth byDefault target = some asking) :
    asking ∈ graph.requesters depth byDefault target := by
  simp only [namer?, Option.or_eq_some_iff] at h
  rcases h with h | ⟨-, h | ⟨-, h⟩⟩
  · exact List.mem_of_find?_eq_some h
  · exact List.mem_of_find?_eq_some h
  · split at h
    · cases h
    · rcases Option.or_eq_some_iff.1 h with h | ⟨-, h⟩
      · exact List.mem_of_find?_eq_some h
      · exact List.mem_of_find?_eq_some h

/-- A wanted target that nobody else gives a name is visible itself. -/
theorem isVisible_of_namer?_eq_none (hgraph : graph.WellFormed)
    (hwanted : target ∈ graph.wanted depth byDefault)
    (h : graph.namer? depth byDefault target = none) : graph.isVisible byDefault target := by
  obtain ⟨-, -, hvisible | ⟨asking, hmem, hrequests⟩⟩ := (mem_wanted hgraph).1 hwanted
  · exact hvisible
  · by_contra hhidden
    have hasking : asking ∈ graph.requesters depth byDefault target :=
      (mem_requesters hgraph).2 ⟨hmem, hrequests⟩
    simp only [namer?, Option.or_eq_none_iff, if_neg hhidden, List.find?_eq_none] at h
    obtain ⟨hencourage, hexposeHere, hvisible, himplicit⟩ := h
    -- The requester has no reason left to request.
    rcases (requests_iff.1 hrequests).2.2.2 with hasks | himplicit'
    · rcases Marks.askExposure_iff.1 hasks with h | h | h
      · exact hvisible asking hasking h
      · exact hencourage asking hasking h
      · exact hexposeHere asking hasking h
    · exact himplicit asking hasking himplicit'

/-! ### The name -/

section Name

variable (hgraph : graph.WellFormed) (horderly : graph.Orderly depth)
  (hbindable : target.kind.isBindable)
include hgraph

/-- At most one requester is encouraged exactly if no two are. -/
theorem length_filter_encourage_le_one :
    ((graph.slot depth byDefault target).requests.filter (·.encourage)).length ≤ 1 ↔
      ∀ a ∈ graph.requesters depth byDefault target,
        ∀ b ∈ graph.requesters depth byDefault target,
          a.carries .encourage → b.carries .encourage → a = b := by
  have hfilter : (graph.slot depth byDefault target).requests.filter (·.encourage) =
      ((graph.requesters depth byDefault target).filter (·.carries .encourage)).map
        (graph.request byDefault) := List.filter_map
  rw [hfilter, List.length_map, length_le_one_iff ((nodup_requesters hgraph).filter _)]
  simp only [List.mem_filter, and_imp]
  exact ⟨fun h a ha b hb haencourage hbencourage ↦ h a ha haencourage b hb hbencourage,
    fun h a ha haencourage b hb hbencourage ↦ h a ha b hb haencourage hbencourage⟩

include horderly hbindable

/-- The first request for a site is that of the first requester with an `expose_here` mark. -/
theorem find?_relocateTo_requests :
    (graph.slot depth byDefault target).requests.find? (·.relocateTo.isSome) =
      ((graph.requesters depth byDefault target).find? (·.carries .exposeHere)).map
        (graph.request byDefault) := by
  rw [slot, List.find?_map]
  congr 1
  refine List.find?_congr fun asking hasking ↦ ?_
  exact isSome_site? (horderly.site_known hgraph hbindable hasking)

/-- **The name of a target** is that of its namer, or its own. -/
theorem chooseName_slot (hwanted : target ∈ graph.wanted depth byDefault)
    (hone : ((graph.slot depth byDefault target).requests.filter (·.encourage)).length ≤ 1) :
    ∃ choice, Alias.chooseName target.name target.shortName
      (graph.slot depth byDefault target).direct (graph.slot depth byDefault target).requests =
        .ok (some choice) ∧
      choice.externalName = ((graph.namer? depth byDefault target).getD target).shortName ∧
      choice.source.aliasId? = (graph.namer? depth byDefault target).map (·.id) := by
  have hencourage : (graph.slot depth byDefault target).requests.find? (·.encourage) =
      ((graph.requesters depth byDefault target).find? (·.carries .encourage)).map
        (graph.request byDefault) := List.find?_map
  have hforward : (graph.slot depth byDefault target).requests.find? (·.forward) =
      ((graph.requesters depth byDefault target).find? (·.carries .visible)).map
        (graph.request byDefault) := List.find?_map
  have himplicit : (graph.slot depth byDefault target).requests.find? (·.implicit) =
      ((graph.requesters depth byDefault target).find? (graph.isImplicit byDefault)).map
        (graph.request byDefault) := List.find?_map
  have hdirect : (graph.slot depth byDefault target).direct =
      graph.isVisible byDefault target := rfl
  have hnamer := isVisible_of_namer?_eq_none hgraph hwanted
  rw [Alias.chooseName_eq hone, hencourage, hforward, himplicit, hdirect,
    find?_relocateTo_requests hgraph horderly hbindable]
  rw [namer?] at hnamer ⊢
  generalize (graph.requesters depth byDefault target).find? (·.carries .encourage) = encouraged
    at hnamer ⊢
  generalize (graph.requesters depth byDefault target).find? (·.carries .exposeHere) = relocating
    at hnamer ⊢
  generalize (graph.requesters depth byDefault target).find? (·.carries .visible) = forwarding
    at hnamer ⊢
  generalize (graph.requesters depth byDefault target).find? (graph.isImplicit byDefault) = promoted
    at hnamer ⊢
  generalize graph.isVisible byDefault target = visible at hnamer ⊢
  -- In every case one candidate comes first; if there is no other it is the target itself.
  rcases encouraged with - | encouraged
  · rcases relocating with - | relocating
    · cases visible
      · rcases forwarding with - | forwarding
        · rcases promoted with - | promoted
          · cases hnamer rfl
          · exact ⟨_, rfl, rfl, rfl⟩
        · exact ⟨_, rfl, rfl, rfl⟩
      · exact ⟨_, rfl, rfl, rfl⟩
    · exact ⟨_, rfl, rfl, rfl⟩
  · exact ⟨_, rfl, rfl, rfl⟩

end Name

/-! ### The site -/

/-- Requesters agree about the site exactly if no more than one is asked for. -/
theorem length_sites_le_one :
    (graph.slot depth byDefault target).sites.length ≤ 1 ↔
      ∀ a ∈ graph.requesters depth byDefault target,
        ∀ b ∈ graph.requesters depth byDefault target, ∀ site other,
          graph.site? a = some site → graph.site? b = some other → site = other := by
  rw [Slot.length_sites_le_one, slot, List.forall_mem_map]
  simp only [List.forall_mem_map]
  rfl

/-- The first requester that designates a site is the first that designates this one. -/
theorem findSome?_site? (asking : List Declaration) :
    asking.findSome? (fun a ↦ (graph.site? a).map (·, a.id)) =
      (asking.findSome? graph.site?).bind fun site ↦
        (asking.find? (graph.site? · = some site)).map fun via ↦ (site, via.id) := by
  induction asking with
  | nil => rfl
  | cons first rest ih =>
    rw [List.findSome?_cons, List.findSome?_cons]
    cases hsite : graph.site? first with
    | none => simp [ih, hsite]
    | some site => simp [List.find?_cons, hsite]

/-- Where a requester designates a site, one does so first. -/
theorem exists_find?_site? {asking : List Declaration} {site : ModuleId}
    (h : asking.findSome? graph.site? = some site) :
    ∃ via, asking.find? (graph.site? · = some site) = some via := by
  obtain ⟨a, hmem, ha⟩ := List.exists_of_findSome?_eq_some h
  exact Option.isSome_iff_exists.1 (List.find?_isSome.2 ⟨a, hmem, by simpa using ha⟩)

/-- **The relocation of a slot** is that of its target. -/
theorem relocation_slot :
    ((graph.slot depth byDefault target).sites.head?.filter fun (site, _) ↦
      site ≠ (graph.slot depth byDefault target).target.module) =
        (graph.relocation? depth byDefault target).map fun relocation ↦
          (relocation.site, relocation.via) := by
  have hhead : (graph.slot depth byDefault target).sites.head? =
      (graph.requesters depth byDefault target).findSome? fun a ↦
        (graph.site? a).map (·, a.id) := by
    rw [Slot.head?_sites, slot, List.findSome?_map]
    rfl
  have htarget : (graph.slot depth byDefault target).target = target := rfl
  rw [hhead, htarget, findSome?_site?, relocation?, emissionModule]
  rcases hsite : (graph.requesters depth byDefault target).findSome? graph.site? with - | site
  · simp
  · obtain ⟨via, hvia⟩ := exists_find?_site? hsite
    -- A site that is the home module is none to move to.
    by_cases hhome : site = target.module
    · simp [hhome]
    · simp [hvia, hhome]

/-- A target has a relocation exactly if it is emitted away from home. -/
theorem isSome_relocation? :
    (graph.relocation? depth byDefault target).isSome ↔
      graph.emissionModule depth byDefault target ≠ target.module := by
  rw [relocation?, emissionModule]
  rcases hsite : (graph.requesters depth byDefault target).findSome? graph.site? with - | site
  · simp
  · obtain ⟨via, hvia⟩ := exists_find?_site? hsite
    simp [hvia]

/-- What the relocation of a target says. -/
theorem relocation?_eq_some {relocation : Import.Relocation} :
    graph.relocation? depth byDefault target = some relocation ↔
      graph.emissionModule depth byDefault target ≠ target.module ∧
        ∃ via, (graph.requesters depth byDefault target).find?
            (graph.site? · = some (graph.emissionModule depth byDefault target)) = some via ∧
          relocation = ⟨target.id, target.module, graph.emissionModule depth byDefault target,
            via.id⟩ := by
  rw [relocation?]
  split
  · rename_i hhome
    simp [hhome]
  · rename_i haway
    simp only [Option.map_eq_some_iff, ne_eq, haway, not_false_eq_true, true_and]
    exact exists_congr fun via ↦ and_congr_right fun _ ↦ eq_comm

/-- A target is emitted at the site of its relocation, or at home. -/
theorem getD_relocation? :
    ((graph.relocation? depth byDefault target).map (·.site)).getD target.module =
      graph.emissionModule depth byDefault target := by
  rcases hrelocation : graph.relocation? depth byDefault target with - | relocation
  · have hhome : ¬ graph.emissionModule depth byDefault target ≠ target.module := by
      rw [← isSome_relocation?, hrelocation]
      simp
    exact (not_not.1 hhome).symm
  · obtain ⟨-, via, -, rfl⟩ := relocation?_eq_some.1 hrelocation
    rfl

/-! ### The verdict -/

/-- To name the target is to have the identity of the namer. -/
theorem map_id_namer?_eq_some (hgraph : graph.WellFormed) {asking : Declaration}
    (hasking : asking ∈ graph.requesters depth byDefault target) :
    (graph.namer? depth byDefault target).map (·.id) = some asking.id ↔
      graph.namer? depth byDefault target = some asking := by
  rw [Option.map_eq_some_iff]
  constructor
  · rintro ⟨namer, hnamer, hid⟩
    have hdeclared := ((mem_requesters hgraph).1 (mem_requesters_of_namer? hnamer)).1
    rwa [← hgraph.declaration_unique hdeclared ((mem_requesters hgraph).1 hasking).1 hid]
  · exact fun h ↦ ⟨asking, h, rfl⟩

/-- The references of a slot are those of its binders. -/
theorem references_slot (hgraph : graph.WellFormed) (emittedIn : ModuleId) :
    (graph.slot depth byDefault target).references
        ((graph.namer? depth byDefault target).map (·.id)) emittedIn =
      (graph.binders depth byDefault target).map fun binder ↦
        .reference binder.module emittedIn binder.id := by
  rw [Slot.references, slot, List.filter_map, List.map_map, binders]
  congr 1
  refine List.filter_congr fun asking hasking ↦ ?_
  show (asking.carries .visible ||
    decide ((graph.namer? depth byDefault target).map (·.id) = some asking.id)) = _
  rw [decide_eq_decide.2 (map_id_namer?_eq_some hgraph hasking)]

/-- The aliases that a slot forwards are the visible requesters beside the namer. -/
theorem forwarded_slot (hgraph : graph.WellFormed) :
    (graph.slot depth byDefault target).forwarded
        ((graph.namer? depth byDefault target).map (·.id)) =
      (graph.entry depth byDefault target).forwarded := by
  rw [Slot.forwarded, slot, List.filter_map, List.map_map, entry]
  congr 1
  refine List.filter_congr fun asking hasking ↦ ?_
  show (asking.carries .visible &&
    decide ((graph.namer? depth byDefault target).map (·.id) ≠ some asking.id)) = _
  rw [decide_eq_decide.2 (not_congr (map_id_namer?_eq_some hgraph hasking))]

variable (hgraph : graph.WellFormed) (horderly : graph.Orderly depth)
  (hwanted : target ∈ graph.wanted depth byDefault) (hshown : ¬ target.carries .hidden)
include hgraph horderly hwanted hshown

/-- **An emittable target becomes its entry**, with the records that go with it. -/
theorem verdict_slot_eq_emitted (h : graph.Emittable depth byDefault target) :
    (graph.slot depth byDefault target).verdict graph =
      .emitted (graph.entry depth byDefault target) (graph.records depth byDefault target) := by
  have hbindable := ((mem_wanted hgraph).1 hwanted).2.1
  have hone := (length_filter_encourage_le_one hgraph).2 h.one_encouraged
  obtain ⟨choice, hchoice, hname, hnamer⟩ :=
    chooseName_slot hgraph horderly hbindable hwanted hone
  have hhidden : (graph.slot depth byDefault target).hidden = false := by
    simpa [slot] using hshown
  rw [Slot.verdict_eq_emit hhidden hchoice (length_sites_le_one.2 h.one_site),
    relocation_slot, Slot.emit, hnamer, hname, forwarded_slot hgraph, references_slot hgraph]
  -- What is left are the parts that go by the relocation: the site, the exposure and the record.
  have hsite : (((graph.relocation? depth byDefault target).map fun relocation ↦
      (relocation.site, relocation.via)).map (·.1)).getD
        (graph.slot depth byDefault target).target.module =
          graph.emissionModule depth byDefault target := by
    rw [Option.map_map]
    exact getD_relocation?
  have hexposure : (if ((graph.relocation? depth byDefault target).map fun relocation ↦
      (relocation.site, relocation.via)).isSome then Exposed.relocated
      else if (graph.slot depth byDefault target).direct then .direct else .forwardedAlias) =
        graph.exposure depth byDefault target := by
    rw [Option.isSome_map, exposure]
    exact if_congr isSome_relocation? rfl rfl
  have hrecord : (((graph.relocation? depth byDefault target).map fun relocation ↦
      (relocation.site, relocation.via)).map fun (site, via) ↦
        Import.Record.relocation ⟨target.id, target.module, site, via⟩).toList =
          (graph.relocation? depth byDefault target).toList.map .relocation := by
    rcases hrelocation : graph.relocation? depth byDefault target with - | relocation
    · rfl
    · obtain ⟨-, via, -, rfl⟩ := relocation?_eq_some.1 hrelocation
      rfl
  dsimp only
  rw [hsite, hexposure]
  exact congrArg (fun records ↦ Verdict.emitted (graph.entry depth byDefault target)
    (records ++ _)) hrecord

/-- **A target that is not emittable is a problem**, and only such a one is. -/
theorem problem?_verdict_slot :
    ((graph.slot depth byDefault target).verdict graph).problem? = none ↔
      graph.Emittable depth byDefault target := by
  constructor
  · intro hnone
    have hbindable := ((mem_wanted hgraph).1 hwanted).2.1
    have hhidden : (graph.slot depth byDefault target).hidden = false := by
      simpa [slot] using hshown
    have hone : ((graph.slot depth byDefault target).requests.filter (·.encourage)).length ≤ 1 := by
      by_contra hmore
      rw [Slot.problem?_verdict_of_encourage hhidden hmore] at hnone
      cases hnone
    obtain ⟨choice, hchoice, -, -⟩ := chooseName_slot hgraph horderly hbindable hwanted hone
    refine ⟨(length_filter_encourage_le_one hgraph).1 hone, length_sites_le_one.1 ?_⟩
    by_contra hsites
    rw [Slot.problem?_verdict_of_sites hhidden hchoice hsites] at hnone
    cases hnone
  · intro h
    rw [verdict_slot_eq_emitted hgraph horderly hwanted hshown h]
    rfl

end Graph
end Exposure
