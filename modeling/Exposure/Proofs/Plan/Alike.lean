import Exposure.Proofs.Import.Lists
import Exposure.Proofs.Plan.Entries

/-!
# Slots up to the order of requests

Two slots are **alike** when they differ in the order of their requests only (`Slot.Alike`).
Deciding a slot looks at that order to break ties, so alike slots do not come to the same verdict.
They do agree about whether there is a problem (`Slot.Alike.problem?_verdict_eq_none`), and if there
is none, about what is emitted and where (`Slot.Alike.placement_verdict`,
`Slot.Alike.moves_verdict`). They agree about the name too when it is not a matter of ties
(`Slot.Alike.choice?_eq`).

All of this rests on one equation for the verdict on a slot that agrees with itself
(`Slot.verdict_eq`), in which the order of requests is used in two places: for the name, and for the
alias that a relocation goes by.
-/

namespace Exposure

/-- **What is emitted and where**: an entry without names. -/
structure PlanEntry.Placement where
  canonical : DeclId
  kind : Kind
  homeModule : ModuleId
  emissionModule : ModuleId
  exposure : Exposed
  deriving DecidableEq, Repr

/-- The placement of an entry. -/
def PlanEntry.placement (entry : PlanEntry) : PlanEntry.Placement :=
  ⟨entry.canonical, entry.kind, entry.homeModule, entry.emissionModule, entry.exposure⟩

/-- What a relocation moves and where to, whatever alias it goes by. -/
def Import.Relocation.move (relocation : Import.Relocation) : DeclId × ModuleId × ModuleId :=
  (relocation.declaration, relocation.home, relocation.site)

/-- A name that no alias gave is the target's own. -/
theorem Alias.NameSource.aliasId?_eq_none {source : NameSource} :
    source.aliasId? = none ↔ source = .target := by
  cases source <;> simp [aliasId?]

namespace Slot

/-- The name that is chosen for a slot without two encouraged requests. -/
def choice? (slot : Slot) : Option Alias.NameChoice :=
  ((slot.requests.find? (·.encourage)).map (·.choice .encouraged)).or <|
    ((slot.requests.find? (·.relocateTo.isSome)).map (·.choice .relocation)).or <|
      if slot.direct then some ⟨slot.target.shortName, .target⟩
      else ((slot.requests.find? (·.forward)).map (·.choice .forwarded)).or
        ((slot.requests.find? (·.implicit)).map (·.choice .promoted))

/-- The site away from home that a slot asks for first, and the alias that asks. -/
def away? (slot : Slot) : Option (ModuleId × DeclId) :=
  slot.sites.head?.filter fun (site, _) ↦ site ≠ slot.target.module

/-- **The requests of a slot agree**: no more than one is encouraged to name the target, and no more
than one site is asked for. -/
structure Agrees (slot : Slot) : Prop where
  one_encouraged : (slot.requests.filter (·.encourage)).length ≤ 1
  one_site : slot.sites.length ≤ 1

variable {graph : Graph} {slot : Slot}

/-- **The verdict on a slot whose requests agree.** -/
theorem verdict_eq (hshown : slot.hidden = false) (h : slot.Agrees) :
    slot.verdict graph = slot.choice?.elim .nameless fun choice ↦ slot.emit choice slot.away? := by
  have hname : Alias.chooseName slot.target.name slot.target.shortName slot.direct slot.requests =
      .ok slot.choice? := Alias.chooseName_eq h.one_encouraged
  rcases hchoice : slot.choice? with - | choice
  · rw [verdict, hshown, if_neg Bool.false_ne_true, hname, hchoice]
    rfl
  · rw [hchoice] at hname
    exact verdict_eq_emit hshown hname h.one_site

/-- Whoever asks for a site gives the target a name, if nobody else does. -/
theorem choice?_ne_none_of_sites (h : ¬ slot.sites.length ≤ 1) : slot.choice? ≠ none := by
  intro hnone
  simp only [choice?, Option.or_eq_none_iff, Option.map_eq_none_iff, List.find?_eq_none] at hnone
  refine h (slot.length_sites_le_one.2 fun a ha b hb site other hsite hother ↦ ?_)
  have hunasked := hnone.2.1 a ha
  rw [hsite] at hunasked
  exact absurd rfl hunasked

/-- **What is wrong with a slot.** Encouraged requests are looked at before sites, and where they
contradict each other the sites are not looked at any more. -/
theorem problem?_verdict_eq (hshown : slot.hidden = false) :
    (slot.verdict graph).problem? =
      if 2 ≤ (slot.requests.filter (·.encourage)).length then
        some (.ambiguousEncouragement slot.target.name
          ((slot.requests.filter (·.encourage)).map (·.qualifiedName)))
      else if 2 ≤ slot.sites.length then
        some (.duplicateEmission slot.target.name ((slot.sites.map (·.1)).map graph.moduleName))
      else none := by
  split
  · rename_i htwo
    exact problem?_verdict_of_encourage hshown (by omega)
  · rename_i hone
    have hone : (slot.requests.filter (·.encourage)).length ≤ 1 := by omega
    split
    · rename_i htwo
      have hsites : ¬ slot.sites.length ≤ 1 := by omega
      obtain ⟨choice, hchoice⟩ := Option.ne_none_iff_exists'.1 (choice?_ne_none_of_sites hsites)
      have hname : Alias.chooseName slot.target.name slot.target.shortName slot.direct
          slot.requests = .ok slot.choice? := Alias.chooseName_eq hone
      rw [hchoice] at hname
      exact problem?_verdict_of_sites hshown hname hsites
    · rename_i hsites
      rw [verdict_eq hshown ⟨hone, by omega⟩]
      cases slot.choice? <;> rfl

/-- **A slot is no problem exactly if it is hidden or its requests agree.** -/
theorem problem?_verdict_eq_none :
    (slot.verdict graph).problem? = none ↔ slot.hidden = true ∨ slot.Agrees := by
  cases hhidden : slot.hidden with
  | true =>
    refine iff_of_true ?_ (.inl rfl)
    rw [verdict, hhidden, if_pos rfl]
    rfl
  | false =>
    rw [problem?_verdict_eq hhidden, or_iff_right Bool.false_ne_true]
    split_ifs with htwo hsites
    · exact iff_of_false not_false fun h ↦ absurd h.one_encouraged (by omega)
    · exact iff_of_false not_false fun h ↦ absurd h.one_site (by omega)
    · exact iff_of_true rfl ⟨by omega, by omega⟩

/-- **What an entry takes from its slot**: the target, and the name that is chosen. -/
theorem of_planned?_verdict {entry : PlanEntry}
    (h : (slot.verdict graph).planned? = some entry)
    (hclean : (slot.verdict graph).problem? = none) :
    slot.Agrees ∧ entry.canonical = slot.target.id ∧
      ∃ choice, slot.choice? = some choice ∧ entry.externalName = choice.externalName ∧
        entry.namedBy = choice.source.aliasId? := by
  cases hhidden : slot.hidden with
  | true =>
    rw [verdict, hhidden, if_pos rfl] at h
    cases h
  | false =>
    have hagrees : slot.Agrees := by
      simpa [hhidden] using problem?_verdict_eq_none.1 hclean
    rw [verdict_eq hhidden hagrees] at h
    rcases hchoice : slot.choice? with - | choice
    · rw [hchoice] at h
      cases h
    · rw [hchoice] at h
      cases h
      exact ⟨hagrees, rfl, choice, rfl, rfl, rfl⟩

/-- What a verdict records is a relocation or a reference. -/
theorem of_mem_records_verdict {record : Import.Record}
    (h : record ∈ (slot.verdict graph).records) :
    (∃ relocation, record = .relocation relocation) ∨
      ∃ module emittedIn via, record = .reference module emittedIn via := by
  unfold verdict at h
  split at h
  · cases h
  · split at h
    · cases h
    · cases h
    · split at h
      · cases h
      · rcases List.mem_append.1 h with hrelocation | hreference
        · obtain ⟨pair, -, rfl⟩ := Option.map_eq_some_iff.1 (Option.mem_toList.1 hrelocation)
          exact .inl ⟨_, rfl⟩
        · obtain ⟨request, -, rfl⟩ := List.mem_map.1 hreference
          exact .inr ⟨_, _, _, rfl⟩

/-- **Slots alike**: all the same but the order of the requests. -/
structure Alike (slot other : Slot) : Prop where
  target : slot.target = other.target
  direct : slot.direct = other.direct
  hidden : slot.hidden = other.hidden
  requests : slot.requests.Perm other.requests

namespace Alike

variable {other : Slot}

theorem symm (h : slot.Alike other) : other.Alike slot :=
  ⟨h.target.symm, h.direct.symm, h.hidden.symm, h.requests.symm⟩

/-- Whether the requests agree is no matter of their order. -/
theorem agrees (h : slot.Alike other) (hagrees : slot.Agrees) : other.Agrees := by
  refine ⟨(h.requests.filter _).length_eq ▸ hagrees.one_encouraged, ?_⟩
  have hsites := slot.length_sites_le_one.1 hagrees.one_site
  exact other.length_sites_le_one.2 fun a ha b hb ↦
    hsites a (h.requests.mem_iff.2 ha) b (h.requests.mem_iff.2 hb)

/-- **Slots alike are a problem together or not at all.** -/
theorem problem?_verdict_eq_none (h : slot.Alike other) :
    (slot.verdict graph).problem? = none ↔ (other.verdict graph).problem? = none := by
  rw [Slot.problem?_verdict_eq_none, Slot.problem?_verdict_eq_none, h.hidden]
  exact or_congr_right ⟨h.agrees, h.symm.agrees⟩

/-- Whether some request has a property is no matter of their order. -/
theorem isSome_find? (h : slot.Alike other) (p : Alias.Request → Bool) :
    (slot.requests.find? p).isSome = (other.requests.find? p).isSome := by
  rw [List.isSome_find?, List.isSome_find?, h.requests.any_eq]

/-- Whether there is a name is no matter of the order of requests. -/
theorem isSome_choice? (h : slot.Alike other) : slot.choice?.isSome = other.choice?.isSome := by
  rw [choice?, choice?, h.direct]
  cases other.direct <;>
    simp only [Option.isSome_or, Option.isSome_map, h.isSome_find?, Bool.false_eq_true, if_true,
      if_false, Option.isSome_some]

/-- Requests that agree ask for the same site first, in whatever order they come. -/
theorem map_fst_away? (h : slot.Alike other) (hagrees : slot.Agrees) :
    slot.away?.map (·.1) = other.away?.map (·.1) := by
  have hsites := perm_eraseDups (h.requests.filterMap (·.relocateTo))
  rw [← map_fst_sites, ← map_fst_sites] at hsites
  have heq := eq_of_perm_of_length_le_one hsites (by rw [List.length_map]; exact hagrees.one_site)
  have hhead : slot.sites.head?.map (·.1) = other.sites.head?.map (·.1) := by
    rw [← List.head?_map, ← List.head?_map, heq]
  have haway (one : Slot) : one.away?.map (·.1) =
      (one.sites.head?.map (·.1)).filter (· ≠ one.target.module) := by
    rw [away?, Option.filter_map]
    rfl
  rw [haway, haway, hhead, h.target]

/-- What a slot emits, and where. -/
theorem placement_verdict_eq (hshown : slot.hidden = false) (hagrees : slot.Agrees) :
    (slot.verdict graph).planned?.map (·.placement) =
      if slot.choice?.isSome then
        some ⟨slot.target.id, slot.target.kind, slot.target.module,
          (slot.away?.map (·.1)).getD slot.target.module,
          if (slot.away?.map (·.1)).isSome then .relocated
          else if slot.direct then .direct else .forwardedAlias⟩
      else none := by
  rw [verdict_eq hshown hagrees, Option.isSome_map]
  cases slot.choice? <;> rfl

/-- **Slots alike emit the same at the same place.** -/
theorem placement_verdict (h : slot.Alike other)
    (hclean : (slot.verdict graph).problem? = none) :
    (slot.verdict graph).planned?.map (·.placement) =
      (other.verdict graph).planned?.map (·.placement) := by
  cases hhidden : slot.hidden with
  | true =>
    rw [verdict, verdict, ← h.hidden, hhidden, if_pos rfl, if_pos rfl]
    rfl
  | false =>
    have hagrees : slot.Agrees := by
      simpa [hhidden] using Slot.problem?_verdict_eq_none.1 hclean
    rw [placement_verdict_eq hhidden hagrees,
      placement_verdict_eq (h.hidden ▸ hhidden) (h.agrees hagrees), h.isSome_choice?,
      h.map_fst_away? hagrees, h.target, h.direct]

/-- What a slot moves, and where to. -/
theorem moves_verdict_eq (hshown : slot.hidden = false) (hagrees : slot.Agrees) :
    (Import.Ledger.relocations (slot.verdict graph).records).map (·.move) =
      if slot.choice?.isSome then
        ((slot.away?.map (·.1)).map (slot.target.id, slot.target.module, ·)).toList
      else [] := by
  have hreferences (namedBy : Option DeclId) (site : ModuleId) :
      Import.Ledger.relocations (slot.references namedBy site) = [] := by
    unfold references Import.Ledger.relocations
    rw [List.filterMap_map]
    exact List.filterMap_eq_nil_iff.2 fun _ _ ↦ rfl
  rw [verdict_eq hshown hagrees]
  rcases slot.choice? with - | choice
  · rfl
  · rw [Option.elim_some, emit]
    dsimp only [Verdict.records]
    rw [Import.Ledger.relocations_append, hreferences, List.append_nil]
    cases slot.away? <;> rfl

/-- **Slots alike move the same to the same place.** -/
theorem moves_verdict (h : slot.Alike other) (hclean : (slot.verdict graph).problem? = none) :
    (Import.Ledger.relocations (slot.verdict graph).records).map (·.move) =
      (Import.Ledger.relocations (other.verdict graph).records).map (·.move) := by
  cases hhidden : slot.hidden with
  | true =>
    rw [verdict, verdict, ← h.hidden, hhidden, if_pos rfl, if_pos rfl]
    rfl
  | false =>
    have hagrees : slot.Agrees := by
      simpa [hhidden] using Slot.problem?_verdict_eq_none.1 hclean
    rw [moves_verdict_eq hhidden hagrees,
      moves_verdict_eq (h.hidden ▸ hhidden) (h.agrees hagrees), h.isSome_choice?,
      h.map_fst_away? hagrees, h.target]

/-- **The name is no matter of the order of requests** if one is encouraged to give it or the target
keeps its own. -/
theorem choice?_eq (h : slot.Alike other) (hagrees : slot.Agrees) {choice : Alias.NameChoice}
    (hchoice : slot.choice? = some choice)
    (hsteady : (∃ request ∈ slot.requests, request.encourage) ∨ choice.source = .target) :
    other.choice? = some choice := by
  have hencouraged : slot.requests.find? (·.encourage) = other.requests.find? (·.encourage) := by
    rw [← List.head?_filter, ← List.head?_filter,
      eq_of_perm_of_length_le_one (h.requests.filter _) hagrees.one_encouraged]
  rcases hfind : slot.requests.find? (·.encourage) with - | request
  · -- Nobody is encouraged, so the target keeps its name; then no site is asked for either.
    rcases hsteady with ⟨request, hmem, hencourage⟩ | hsource
    · exact absurd hencourage (by simpa using List.find?_eq_none.1 hfind request hmem)
    · rw [choice?, hfind, Option.map_none, Option.none_or] at hchoice
      rw [choice?, ← hencouraged, hfind, Option.map_none, Option.none_or]
      have hsite := h.isSome_find? (·.relocateTo.isSome)
      rcases hrelocating : slot.requests.find? (·.relocateTo.isSome) with - | request
      · rw [hrelocating, Option.isSome_none, eq_comm, Option.isSome_eq_false_iff,
          Option.isNone_iff_eq_none] at hsite
        rw [hrelocating, Option.map_none, Option.none_or] at hchoice
        rw [hsite, Option.map_none, Option.none_or, ← h.direct, ← h.target]
        split at hchoice
        · rename_i hdirect
          rw [if_pos hdirect]
          exact hchoice
        · -- A name that the target has of its own is not given by an alias.
          rcases Option.or_eq_some_iff.1 hchoice with hgiven | ⟨-, hgiven⟩ <;>
            obtain ⟨request, -, rfl⟩ := Option.map_eq_some_iff.1 hgiven <;> cases hsource
      · rw [hrelocating] at hchoice
        cases hchoice
        cases hsource
  · rw [choice?, hfind] at hchoice
    rw [choice?, ← hencouraged, hfind]
    exact hchoice

end Alike
end Slot
end Exposure
