import Exposure.Proofs.Graph.Extension
import Exposure.Proofs.Plan.Lookup
import Exposure.Proofs.Plan.Warnings

/-!
# Transparent aliases

An alias without marks whose target is exposed for a reason of its own is **transparent**
(`Graph.Transparent`): a graph that is extended by it tells the same of all other declarations. The
alias may request its target, if it is visible by its surroundings, and may be the first to do so;
but it says nothing, so it designates no site, is bound to nothing and does not name its target, for
somebody with a better claim does (`Transparent.namer?_eq`).

The file goes through the notions that plans are told in, one after the other. What is gathered
from the requesters of a target is the same as long as the alias contributes nothing
(`Transparent.filterMap_requesters`), and what is gathered from the traversal likewise. Then the
extended graph is valid (`Transparent.valid`), exposes the same targets, in another order maybe
(`Transparent.exposed_perm`), with the same entries (`Transparent.entry_eq`) and records.
-/

namespace Exposure

namespace Graph

/-- **A transparent alias** is a new one without marks, whose target is exposed: it is visible
itself, or some alias asks for it by its own marks. -/
structure Transparent (extended graph : Graph) (depth : Nat) (byDefault : Bool)
    (added target : Declaration) : Prop extends Extends extended graph added where
  built : graph.Built
  extended_built : extended.Built
  orderly : graph.Orderly depth
  isAlias : added.isAlias
  unmarked : added.marks = []
  leads : extended.target? depth added = some target
  exposed : target ∈ graph.exposed depth byDefault
  claimed : graph.isVisible byDefault target ∨ ∃ asking ∈ graph.declarations,
    asking.asksExposure ∧ graph.requests depth byDefault asking target

namespace Transparent

variable {extended graph : Graph} {depth : Nat} {byDefault : Bool} {added target : Declaration}
  (h : extended.Transparent graph depth byDefault added target) {declaration : Declaration}
include h

/-! ### What the alias is -/

theorem carries_eq_false (directive : Directive) : added.carries directive = false := by
  rw [Declaration.carries, h.unmarked]
  rfl

theorem asksExposure_eq_false : added.asksExposure = false := by
  rw [Declaration.asksExposure, h.unmarked]
  rfl

theorem isBindable_eq_false : added.kind.isBindable = false := by
  have hkind : added.kind = .typeAlias := of_decide_eq_true h.isAlias
  rw [hkind]
  rfl

/-- The alias is new. -/
theorem not_mem : added ∉ graph.declarations := by
  have hnodup := h.extended_built.wellFormed.nodup_declarations
  rw [h.declarations, List.nodup_append] at hnodup
  exact fun hmem ↦ hnodup.2.2 added hmem added (List.mem_singleton.2 rfl) rfl

/-- Of what the alias is not, one declaration of the extended graph is as much as of the other. -/
theorem exists_mem_iff {holds : Declaration → Prop} (hadded : ¬ holds added) :
    (∃ declaration ∈ extended.declarations, holds declaration) ↔
      ∃ declaration ∈ graph.declarations, holds declaration := by
  constructor
  · rintro ⟨declaration, hmem, hholds⟩
    rcases h.mem_declarations.1 hmem with hmem | rfl
    · exact ⟨declaration, hmem, hholds⟩
    · exact absurd hholds hadded
  · rintro ⟨declaration, hmem, hholds⟩
    exact ⟨declaration, h.mem_declarations.2 (.inl hmem), hholds⟩

/-! ### What the others are -/

theorem isImplicit_eq (hmem : declaration ∈ graph.declarations) :
    extended.isImplicit byDefault declaration = graph.isImplicit byDefault declaration := by
  rw [isImplicit, isImplicit, inherits, inherits, h.module?_eq,
    h.enclosingScopes_eq h.built h.extended_built hmem]

/-- Who is visible by itself still is. -/
theorem isVisible_eq (hmem : declaration ∈ graph.declarations) :
    extended.isVisible byDefault declaration = graph.isVisible byDefault declaration := by
  rw [isVisible, isVisible, h.isImplicit_eq hmem]

theorem site?_eq (declaration : Declaration) :
    extended.site? declaration = graph.site? declaration := by
  have hnamed : extended.moduleNamed = graph.moduleNamed := funext h.moduleNamed_eq
  rw [site?, site?, hnamed]

theorem site?_added : extended.site? added = none := by
  rw [site?, h.unmarked]
  rfl

/-- Where a chain leads, it still leads. -/
theorem target?_eq (hmem : declaration ∈ graph.declarations) :
    extended.target? depth declaration = graph.target? depth declaration := by
  obtain ⟨chain, hchain⟩ := h.orderly.exists_chain hmem
  rw [target?, target?, h.resolve_eq_ok hchain, hchain]

theorem requests_eq (hmem : declaration ∈ graph.declarations) (other : Declaration) :
    extended.requests depth byDefault declaration other =
      graph.requests depth byDefault declaration other := by
  rw [requests, requests, h.target?_eq hmem, h.isImplicit_eq hmem]

/-- If the alias requests anything, it is its target. -/
theorem eq_target_of_requests {other : Declaration}
    (hrequests : extended.requests depth byDefault added other) : other = target := by
  have hleads := (requests_iff.1 hrequests).2.1
  rw [h.leads] at hleads
  exact (Option.some.inj hleads).symm

/-! ### What modules ask for -/

theorem asksFor_iff {module : Module} {name : String} :
    extended.AsksFor module name ↔ graph.AsksFor module name := by
  refine or_congr_right (h.exists_mem_iff ?_)
  rintro ⟨-, -, hname⟩
  rw [h.unmarked] at hname
  cases hname

theorem callsFor_iff {module : Module} {name : String} :
    extended.CallsFor module name ↔ graph.CallsFor module name := by
  refine exists_congr fun owner ↦ exists_congr fun code ↦ and_congr_left fun _ ↦
    or_congr_right (h.exists_mem_iff ?_)
  rintro ⟨-, -, -, hcode⟩
  rw [h.unmarked] at hcode
  cases hcode

/-! ### Validity -/

/-- Whoever else is an alias of a target was one before. -/
theorem openAlias_of_ne {other asking : Declaration}
    (hopen : extended.OpenAlias depth other asking) (hne : asking ≠ added) :
    graph.OpenAlias depth other asking := by
  have hmem := (h.mem_declarations.1 hopen.mem).resolve_right hne
  exact ⟨hmem, hopen.isAlias, h.target?_eq hmem ▸ hopen.leads, hopen.shown⟩

/-- **The extended graph is valid**: the chain of the alias ends, and whatever else is asked of it
concerns marks that it does not carry. -/
theorem valid (hvalid : graph.Valid depth) : extended.Valid depth where
  declarations_read declaration hmem mark hmark := by
    rcases h.mem_declarations.1 hmem with hmem | rfl
    · exact hvalid.declarations_read declaration hmem mark hmark
    · rw [h.unmarked] at hmark
      cases hmark
  modules_read := h.modules ▸ hvalid.modules_read
  aliases_resolve declaration hmem halias := by
    rcases h.mem_declarations.1 hmem with hmem | rfl
    · obtain ⟨chain, hchain⟩ := hvalid.aliases_resolve declaration hmem halias
      exact ⟨chain, h.resolve_eq_ok hchain⟩
    · -- For the added alias this is part of what is asked of it: it leads to a target.
      obtain ⟨chain, hchain, -⟩ := target?_eq_some.1 h.leads
      exact ⟨chain, hchain⟩
  declarations_agree declaration hmem := by
    rcases h.mem_declarations.1 hmem with hmem | rfl
    · exact hvalid.declarations_agree declaration hmem
    · simp [h.carries_eq_false]
  modules_agree := h.modules ▸ hvalid.modules_agree
  sites_known asking other hopen hbindable name hname := by
    -- Who asks for something has a mark, so it is not the added alias but one that was there.
    have hne : asking ≠ added := by
      rintro rfl
      rw [h.unmarked] at hname
      cases hname
    rw [h.containsModule_eq]
    exact hvalid.sites_known asking other (h.openAlias_of_ne hopen hne) hbindable name hname
  one_encouraged other _ hbindable hshown a b ha hb haencourage hbencourage := by
    have hne {asking : Declaration} (hencourage : asking.carries .encourage) : asking ≠ added := by
      rintro rfl
      rw [h.carries_eq_false] at hencourage
      cases hencourage
    have ha := h.openAlias_of_ne ha (hne haencourage)
    have hb := h.openAlias_of_ne hb (hne hbencourage)
    exact hvalid.one_encouraged other (target?_mem ha.mem ha.leads) hbindable hshown a b ha hb
      haencourage hbencourage
  one_site other _ hbindable hshown a b ha hb site second hsite hsecond := by
    have hne {asking : Declaration} {site : ModuleId} (hsite : extended.site? asking = some site) :
        asking ≠ added := by
      rintro rfl
      rw [h.site?_added] at hsite
      cases hsite
    have ha := h.openAlias_of_ne ha (hne hsite)
    have hb := h.openAlias_of_ne hb (hne hsecond)
    rw [h.site?_eq] at hsite hsecond
    exact hvalid.one_site other (target?_mem ha.mem ha.leads) hbindable hshown a b ha hb site second
      hsite hsecond
  imports_known module hmodule name hasks := by
    rw [h.modules] at hmodule
    rw [h.containsModule_eq]
    exact hvalid.imports_known module hmodule name (h.asksFor_iff.1 hasks)
  calls_asked module hmodule name hcalls := by
    rw [h.modules] at hmodule
    rw [h.containsModule_eq, h.asksFor_iff]
    exact hvalid.calls_asked module hmodule name (h.callsFor_iff.1 hcalls)

/-! ### Who is exposed -/

/-- **The same targets are exposed.** The one that the alias may request is exposed anyway. -/
theorem mem_exposed_iff {other : Declaration} :
    other ∈ extended.exposed depth byDefault ↔ other ∈ graph.exposed depth byDefault := by
  rw [mem_exposed h.extended_built.wellFormed]
  constructor
  · rintro ⟨hmem, hbindable, hshown, hasked⟩
    have hmem : other ∈ graph.declarations := by
      refine (h.mem_declarations.1 hmem).resolve_right fun heq ↦ ?_
      rw [heq, h.isBindable_eq_false] at hbindable
      cases hbindable
    by_cases hrequests : extended.requests depth byDefault added other
    · exact h.eq_target_of_requests hrequests ▸ h.exposed
    · rw [h.isVisible_eq hmem, h.exists_mem_iff hrequests] at hasked
      refine (mem_exposed h.built.wellFormed).2 ⟨hmem, hbindable, hshown, hasked.imp_right ?_⟩
      rintro ⟨asking, hasking, hrequests⟩
      exact ⟨asking, hasking, h.requests_eq hasking other ▸ hrequests⟩
  · intro hexposed
    obtain ⟨hmem, hbindable, hshown, hasked⟩ := (mem_exposed h.built.wellFormed).1 hexposed
    refine ⟨h.mem_declarations.2 (.inl hmem), hbindable, hshown, ?_⟩
    rw [h.isVisible_eq hmem]
    refine hasked.imp_right ?_
    rintro ⟨asking, hasking, hrequests⟩
    exact ⟨asking, h.mem_declarations.2 (.inl hasking),
      (h.requests_eq hasking other).symm ▸ hrequests⟩

theorem exposed_perm :
    (extended.exposed depth byDefault).Perm (graph.exposed depth byDefault) :=
  (List.perm_ext_iff_of_nodup (nodup_wanted.filter _) (nodup_wanted.filter _)).2 fun _ ↦
    h.mem_exposed_iff

/-! ### Requesters -/

/-- **What is gathered from requesters is the same** if the alias gives nothing. -/
theorem filterMap_requesters {α : Type} {f g : Declaration → Option α} (hadded : f added = none)
    (hsame : ∀ declaration ∈ graph.declarations, f declaration = g declaration)
    (other : Declaration) :
    (extended.requesters depth byDefault other).filterMap f =
      (graph.requesters depth byDefault other).filterMap g := by
  rw [requesters, requesters, List.filterMap_filter, List.filterMap_filter,
    h.filterMap_traversal (by rw [hadded, ite_self])]
  refine List.filterMap_congr fun declaration hmet ↦ ?_
  have hmem := h.built.wellFormed.mem_traversal.1 hmet
  rw [h.requests_eq hmem, hsame declaration hmem]

theorem filter_requesters {p q : Declaration → Bool} (hadded : p added = false)
    (hsame : ∀ declaration ∈ graph.declarations, p declaration = q declaration)
    (other : Declaration) :
    (extended.requesters depth byDefault other).filter p =
      (graph.requesters depth byDefault other).filter q := by
  rw [← List.filterMap_eq_filter, ← List.filterMap_eq_filter]
  refine h.filterMap_requesters (by simp [Option.guard, hadded]) (fun declaration hmem ↦ ?_) other
  rw [Option.guard, Option.guard, hsame declaration hmem]

theorem find?_requesters {p q : Declaration → Bool} (hadded : p added = false)
    (hsame : ∀ declaration ∈ graph.declarations, p declaration = q declaration)
    (other : Declaration) :
    (extended.requesters depth byDefault other).find? p =
      (graph.requesters depth byDefault other).find? q := by
  rw [← List.head?_filter, ← List.head?_filter, h.filter_requesters hadded hsame]

/-- A target that the alias does not request has the requesters it had. -/
theorem requesters_eq {other : Declaration}
    (hrequests : ¬ extended.requests depth byDefault added other) :
    extended.requesters depth byDefault other = graph.requesters depth byDefault other := by
  rw [requesters, requesters, h.filter_traversal (by simpa using hrequests)]
  exact List.filter_congr fun declaration hmet ↦
    h.requests_eq (h.built.wellFormed.mem_traversal.1 hmet) other

/-! ### Names, places and bindings -/

/-- **The alias is never the one to name its target**: that is visible itself, or a requester with a
better claim is found first. -/
theorem namer?_eq {other : Declaration} (hmem : other ∈ graph.declarations) :
    extended.namer? depth byDefault other = graph.namer? depth byDefault other := by
  have hmarked (directive : Directive) :
      (extended.requesters depth byDefault other).find? (·.carries directive) =
        (graph.requesters depth byDefault other).find? (·.carries directive) :=
    h.find?_requesters (h.carries_eq_false directive) (fun _ _ ↦ rfl) other
  rw [namer?, namer?, hmarked, hmarked, hmarked, h.isVisible_eq hmem]
  by_cases hrequests : extended.requests depth byDefault added other
  · obtain rfl := h.eq_target_of_requests hrequests
    rcases h.claimed with hvisible | ⟨asking, hasking, hasks, hasked⟩
    · rw [if_pos hvisible, if_pos hvisible]
    · -- The alias that asks by its marks is found before those that are only visible.
      have hfound {directive : Directive} (hcarries : asking.carries directive) :
          ∃ first, (graph.requesters depth byDefault other).find? (·.carries directive) =
            some first :=
        Option.isSome_iff_exists.1 (List.find?_isSome.2
          ⟨asking, (mem_requesters h.built.wellFormed).2 ⟨hasking, hasked⟩, hcarries⟩)
      rcases Marks.askExposure_iff.1 hasks with hvisible | hencourage | hexposeHere
      · obtain ⟨first, hfirst⟩ := hfound hvisible
        rw [hfirst, Option.some_or, Option.some_or]
      · obtain ⟨first, hfirst⟩ := hfound hencourage
        rw [hfirst, Option.some_or, Option.some_or]
      · obtain ⟨first, hfirst⟩ := hfound hexposeHere
        rw [hfirst, Option.some_or, Option.some_or]
  · rw [h.requesters_eq hrequests]
    congr 4
    refine List.find?_congr fun asking hasking ↦ ?_
    exact h.isImplicit_eq ((mem_requesters h.built.wellFormed).1 hasking).1

/-- The site of a target is where it was. -/
theorem emissionModule_eq (other : Declaration) :
    extended.emissionModule depth byDefault other =
      graph.emissionModule depth byDefault other := by
  rw [emissionModule, emissionModule, ← List.head?_filterMap, ← List.head?_filterMap,
    h.filterMap_requesters h.site?_added (fun declaration _ ↦ h.site?_eq declaration)]

/-- The alias is bound to nothing. -/
theorem binders_eq {other : Declaration} (hmem : other ∈ graph.declarations) :
    extended.binders depth byDefault other = graph.binders depth byDefault other := by
  have hadded : graph.namer? depth byDefault other ≠ some added := fun hnamer ↦
    h.not_mem ((mem_requesters h.built.wellFormed).1 (mem_requesters_of_namer? hnamer)).1
  rw [binders, binders, h.namer?_eq hmem]
  exact h.filter_requesters (by simp [h.carries_eq_false, hadded]) (fun _ _ ↦ rfl) other

/-- **The entry of a target is what it was.** -/
theorem entry_eq {other : Declaration} (hmem : other ∈ graph.declarations) :
    extended.entry depth byDefault other = graph.entry depth byDefault other := by
  have hforwarded := h.filter_requesters
    (p := fun asking ↦ asking.carries .visible &&
      graph.namer? depth byDefault other ≠ some asking)
    (by simp [h.carries_eq_false]) (fun _ _ ↦ rfl) other
  rw [entry, entry, exposure, exposure, h.emissionModule_eq, h.namer?_eq hmem, h.isVisible_eq hmem,
    hforwarded]

theorem relocation?_eq (other : Declaration) :
    extended.relocation? depth byDefault other = graph.relocation? depth byDefault other := by
  rw [relocation?, relocation?, h.emissionModule_eq]
  rw [h.find?_requesters (by simp [h.site?_added]) fun declaration _ ↦ by
    rw [h.site?_eq declaration]]

/-! ### Refusals -/

/-- The same hidden targets are refused, in the same order. -/
theorem refused_eq : extended.refused depth byDefault = graph.refused depth byDefault := by
  have hshown : target.carries .hidden = false := by
    simpa using ((mem_exposed h.built.wellFormed).1 h.exposed).2.2.1
  have hadded : ((extended.target? depth added).filter fun other ↦
      other.kind.isBindable && other.carries .hidden &&
        extended.requests depth byDefault added other) = none := by
    rw [h.leads, Option.filter_some, hshown, Bool.and_false, Bool.false_and]
    rfl
  rw [refused, refused, h.filterMap_traversal hadded]
  congr 1
  refine List.filterMap_congr fun declaration hmet ↦ ?_
  have hmem := h.built.wellFormed.mem_traversal.1 hmet
  rw [h.target?_eq hmem]
  congr 1
  funext other
  rw [h.requests_eq hmem]

/-- The same aliases are warned of. -/
theorem refusals_eq : extended.refusals depth = graph.refusals depth := by
  funext other
  rw [refusals, refusals, openAliases, openAliases, List.filter_filter, List.filter_filter,
    h.filter_traversal (by rw [h.asksExposure_eq_false, Bool.false_and])]
  congr 1
  refine List.filter_congr fun declaration hmet ↦ ?_
  rw [h.target?_eq (h.built.wellFormed.mem_traversal.1 hmet)]

end Transparent
end Graph
end Exposure
