import Mathlib.Data.List.MinMax
import Exposure.Proofs.Plan.Entries

/-!
# Precedence of names

Every request for a target has a **rank**, by the best of its flags, and the target itself has one
between those of aliases that move it and those of aliases that are merely bound. A request
**leads** the others if it is the first of the best rank (`Leads`), and then it names the target,
unless two of them are encouraged.

So a choice of name depends on the ranks and, among equals, on who comes first. That is all of it:
whether there is a name and of what rank does not change with the order of the requests, and a
request that comes in later, or that ranks lower, does not change the name (`chooseName_stable`).
-/

namespace Exposure.Alias

/-- The ranks of those who might name a target, the best last. -/
inductive Rank where
  /-- That of a request without any flag. -/
  | silent
  | implicit
  | forwarding
  /-- That of the target itself; no request has it. -/
  | own
  | relocating
  | encouraged
  deriving DecidableEq, Repr

namespace Rank

/-- Where a rank stands, from below. -/
def height : Rank → Nat
  | silent => 0
  | implicit => 1
  | forwarding => 2
  | own => 3
  | relocating => 4
  | encouraged => 5

instance : LinearOrder Rank :=
  LinearOrder.lift' height fun a b h ↦ by cases a <;> cases b <;> first | rfl | cases h

/-- What a name of a rank comes from. -/
def source : Rank → DeclId → NameSource
  | encouraged => .encouraged
  | relocating => .relocation
  | forwarding => .forwarded
  | implicit => .promoted
  | own | silent => fun _ ↦ .target

/-- The flag of a rank. -/
def flag : Rank → Request → Bool
  | encouraged, request => request.encourage
  | relocating, request => request.relocateTo.isSome
  | forwarding, request => request.forward
  | implicit, request => request.implicit
  | own, _ | silent, _ => false

theorem le_encouraged (rank : Rank) : rank ≤ encouraged := by
  cases rank <;> decide

theorem silent_le (rank : Rank) : silent ≤ rank := by
  cases rank <;> decide

end Rank

/-- The rank of a request, by the best of its flags. -/
def Request.rank (request : Request) : Rank :=
  if request.encourage then .encouraged
  else if request.relocateTo.isSome then .relocating
  else if request.forward then .forwarding
  else if request.implicit then .implicit
  else .silent

/-- The rank of what a name comes from. -/
def NameSource.rank : NameSource → Rank
  | encouraged _ => .encouraged
  | relocation _ => .relocating
  | target => .own
  | forwarded _ => .forwarding
  | promoted _ => .implicit

/-- A request is **the first of the best rank** among requests, and comes before the target itself
where that is visible. -/
structure Leads (direct : Bool) (requests : List Request) (leader : Request) : Prop where
  first : requests.find? (·.rank = leader.rank) = some leader
  best : ∀ request ∈ requests, request.rank ≤ leader.rank
  asks : .silent < leader.rank
  before_target : direct → .own < leader.rank

/-- What becomes of a choice: whether there is one, whether it is a name, and of what rank. -/
def fate (outcome : Except Problem (Option NameChoice)) : Option (Option Rank) :=
  outcome.toOption.map (·.map (·.source.rank))

/-! ### Ranks and flags -/

namespace Request

variable {request : Request}

theorem rank_ne_own (request : Request) : request.rank ≠ .own := by
  unfold rank
  split_ifs <;> decide

theorem rank_eq_encouraged : request.rank = .encouraged ↔ request.encourage := by
  unfold rank
  split_ifs <;> simp_all

theorem rank_eq_silent :
    request.rank = .silent ↔ request.isExplicit = false ∧ request.implicit = false := by
  unfold rank isExplicit
  split_ifs <;> simp_all

theorem le_rank_of_flag {rank : Rank} (h : rank.flag request) : rank ≤ request.rank := by
  cases rank <;> simp only [Rank.flag] at h <;> unfold Request.rank <;> split_ifs <;>
    first | decide | contradiction

theorem flag_rank (h : .silent < request.rank) : request.rank.flag request := by
  unfold Request.rank at h ⊢
  split_ifs at h ⊢ <;> first | assumption | exact absurd h (lt_irrefl _)

/-- What a name comes from says of which rank the request was, and which alias it is. -/
theorem source_rank (h : .silent < request.rank) (id : DeclId) :
    (request.rank.source id).rank = request.rank ∧
      (request.rank.source id).aliasId? = some id := by
  have hown := request.rank_ne_own
  generalize request.rank = rank at *
  cases rank with
  | silent => exact absurd h (lt_irrefl _)
  | own => exact absurd rfl hown
  | implicit | forwarding | relocating | encouraged => exact ⟨rfl, rfl⟩

end Request

variable {requests : List Request}

/-- Where no request ranks higher, the first with the flag of a rank is the first of the rank. -/
theorem find?_flag {rank : Rank} (hasks : .silent < rank)
    (hbest : ∀ request ∈ requests, request.rank ≤ rank) :
    requests.find? rank.flag = requests.find? (·.rank = rank) := by
  refine List.find?_congr fun request hrequest ↦ ?_
  rw [Bool.eq_iff_iff, decide_eq_true_iff]
  constructor
  · exact fun h ↦ le_antisymm (hbest request hrequest) (Request.le_rank_of_flag h)
  · rintro rfl
    exact Request.flag_rank hasks

/-- Where all requests rank lower, none has the flag of a rank. -/
theorem find?_flag_eq_none {rank : Rank} (h : ∀ request ∈ requests, request.rank < rank) :
    requests.find? rank.flag = none :=
  List.find?_eq_none.2 fun request hrequest hflag ↦
    (h request hrequest).not_ge (Request.le_rank_of_flag hflag)

/-- No two requests are encouraged where all rank lower. -/
theorem length_encouraged_le_one (h : ∀ request ∈ requests, request.rank < .encouraged) :
    (requests.filter (·.encourage)).length ≤ 1 := by
  have hnone : requests.filter (·.encourage) = [] := List.filter_eq_nil_iff.2
    fun request hrequest hflag ↦ (h request hrequest).ne (Request.rank_eq_encouraged.2 hflag)
  rw [hnone]
  exact Nat.zero_le 1

/-! ### Who leads -/

section Choice

variable {targetName shortName : String} {direct : Bool} {leader : Request}

/-- Only one request leads. -/
theorem Leads.unique {other : Request} (h : Leads direct requests leader)
    (hother : Leads direct requests other) : leader = other := by
  have hrank : leader.rank = other.rank :=
    le_antisymm (hother.best leader (List.mem_of_find?_eq_some h.first))
      (h.best other (List.mem_of_find?_eq_some hother.first))
  have hfirst := h.first
  rw [hrank, hother.first] at hfirst
  exact (Option.some.inj hfirst).symm

/-- Who leads is a request of the best rank, and one leads where some request ranks higher than
the target and than silence. -/
theorem exists_leads_of_lt {request : Request} (hrequest : request ∈ requests)
    (hasks : .silent < request.rank) (hbefore : direct → .own < request.rank) :
    ∃ leader, Leads direct requests leader := by
  obtain ⟨top, htop⟩ : ∃ top, requests.argmax Request.rank = some top := by
    rw [← Option.ne_none_iff_exists', Ne, List.argmax_eq_none]
    exact List.ne_nil_of_mem hrequest
  have hbest : ∀ other ∈ requests, other.rank ≤ top.rank :=
    fun other hother ↦ List.le_of_mem_argmax hother htop
  -- Of those of the best rank the first leads.
  obtain ⟨leader, hleader⟩ : ∃ leader, requests.find? (·.rank = top.rank) = some leader := by
    rw [← Option.isSome_iff_exists, List.find?_isSome]
    exact ⟨top, List.argmax_mem htop, decide_eq_true rfl⟩
  have hrank : leader.rank = top.rank := of_decide_eq_true (List.find?_some hleader :)
  refine ⟨leader, by rwa [hrank], fun other hother ↦ hrank ▸ hbest other hother, ?_, fun h ↦ ?_⟩
  · exact hasks.trans_le (hrank ▸ hbest request hrequest)
  · exact (hbefore h).trans_le (hrank ▸ hbest request hrequest)

/-- **Someone comes first**: a request, or the target if it is visible, or nobody asks. -/
theorem exists_leads (direct : Bool) (requests : List Request) :
    (∃ leader, Leads direct requests leader) ∨
      (direct ∧ ∀ request ∈ requests, request.rank < .own) ∨
      (direct = false ∧ ∀ request ∈ requests, request.rank = .silent) := by
  rw [or_iff_not_imp_left]
  intro hnone
  cases direct with
  | true =>
    refine .inl ⟨rfl, fun request hrequest ↦ lt_of_not_ge fun hle ↦ hnone ?_⟩
    have hlt : Rank.own < request.rank := lt_of_le_of_ne hle request.rank_ne_own.symm
    exact exists_leads_of_lt hrequest (lt_trans (by decide) hlt) fun _ ↦ hlt
  | false =>
    refine .inr ⟨rfl, fun request hrequest ↦ ?_⟩
    by_contra hasks
    have hlt : Rank.silent < request.rank := lt_of_le_of_ne (Rank.silent_le _) (Ne.symm hasks)
    exact hnone (exists_leads_of_lt hrequest hlt fun h ↦ by cases h)

/-! ### What is chosen -/

/-- The precedence of candidates, told by the flags of ranks. -/
theorem chooseName_eq_flags (hone : (requests.filter (·.encourage)).length ≤ 1) :
    chooseName targetName shortName direct requests = .ok
      (((requests.find? (Rank.flag .encouraged)).map (·.choice .encouraged)).or <|
        ((requests.find? (Rank.flag .relocating)).map (·.choice .relocation)).or <|
          if direct then some ⟨shortName, .target⟩
          else ((requests.find? (Rank.flag .forwarding)).map (·.choice .forwarded)).or
            ((requests.find? (Rank.flag .implicit)).map (·.choice .promoted))) :=
  Alias.chooseName_eq hone

/-- **The leader names the target**, unless two requests are encouraged. -/
theorem Leads.chooseName_eq (h : Leads direct requests leader)
    (hone : (requests.filter (·.encourage)).length ≤ 1) :
    chooseName targetName shortName direct requests =
      .ok (some (leader.choice leader.rank.source)) := by
  have hfound : requests.find? leader.rank.flag = some leader :=
    (find?_flag h.asks h.best).trans h.first
  have hnone (rank : Rank) (hrank : leader.rank < rank) : requests.find? rank.flag = none :=
    find?_flag_eq_none fun request hrequest ↦ (h.best request hrequest).trans_lt hrank
  have hdirect (hrank : leader.rank < .own) : direct = false := by
    rw [← Bool.not_eq_true]
    exact fun hdirect ↦ lt_asymm hrank (h.before_target hdirect)
  have hown := leader.rank_ne_own
  have hasks := h.asks
  -- Flags of higher ranks are found nowhere, and that of the leader's rank at the leader.
  rw [chooseName_eq_flags hone]
  generalize leader.rank = rank at *
  cases rank with
  | encouraged => rw [hfound]; rfl
  | relocating => rw [hnone .encouraged (by decide), hfound]; rfl
  | own => exact absurd rfl hown
  | forwarding =>
    rw [hnone .encouraged (by decide), hnone .relocating (by decide), hdirect (by decide), hfound]
    rfl
  | implicit =>
    rw [hnone .encouraged (by decide), hnone .relocating (by decide), hdirect (by decide),
      hnone .forwarding (by decide), hfound]
    rfl
  | silent => exact absurd hasks (lt_irrefl _)

/-- Where no request comes before it, a visible target keeps its own name. -/
theorem chooseName_of_lt_own (hbelow : ∀ request ∈ requests, request.rank < .own) :
    chooseName targetName shortName true requests = .ok (some ⟨shortName, .target⟩) := by
  have hnone (rank : Rank) (hrank : .own ≤ rank) : requests.find? rank.flag = none :=
    find?_flag_eq_none fun request hrequest ↦ (hbelow request hrequest).trans_le hrank
  rw [chooseName_eq_flags (length_encouraged_le_one fun request hrequest ↦
    (hbelow request hrequest).trans (by decide)), hnone .encouraged (by decide),
    hnone .relocating (by decide)]
  rfl

/-- Where nobody asks, a target that is not visible has no name. -/
theorem chooseName_of_silent (hsilent : ∀ request ∈ requests, request.rank = .silent) :
    chooseName targetName shortName false requests = .ok none := by
  have hnone (rank : Rank) (hrank : .silent < rank) : requests.find? rank.flag = none :=
    find?_flag_eq_none fun request hrequest ↦ (hsilent request hrequest).trans_lt hrank
  rw [chooseName_eq_flags (length_encouraged_le_one fun request hrequest ↦
    (hsilent request hrequest).trans_lt (by decide)), hnone .encouraged (by decide),
    hnone .relocating (by decide), hnone .forwarding (by decide), hnone .implicit (by decide)]
  rfl

/-- **When there is no decision**: two requests are encouraged. All that are encouraged are
named, in order. -/
theorem chooseName_eq_error_iff {problem : Problem} :
    chooseName targetName shortName direct requests = .error problem ↔
      2 ≤ (requests.filter (·.encourage)).length ∧
        problem = .ambiguousEncouragement targetName
          ((requests.filter (·.encourage)).map (·.qualifiedName)) := by
  by_cases hone : (requests.filter (·.encourage)).length ≤ 1
  · rw [chooseName_eq_flags hone]
    exact ⟨fun h ↦ (nomatch h), fun h ↦ absurd h.1 (by omega)⟩
  · rw [Alias.chooseName_eq_error hone, Except.error.injEq, eq_comm]
    exact (and_iff_right (by omega)).symm

/-- **When there is no name**: the target is not visible and nobody asks. -/
theorem chooseName_eq_none_iff :
    chooseName targetName shortName direct requests = .ok none ↔
      direct = false ∧ ∀ request ∈ requests, request.rank = .silent := by
  constructor
  · intro hnone
    by_cases hone : (requests.filter (·.encourage)).length ≤ 1
    · rcases exists_leads direct requests with ⟨leader, h⟩ | ⟨rfl, hbelow⟩ | h
      · rw [h.chooseName_eq hone] at hnone
        cases hnone
      · rw [chooseName_of_lt_own hbelow] at hnone
        cases hnone
      · exact h
    · rw [Alias.chooseName_eq_error hone] at hnone
      cases hnone
  · rintro ⟨rfl, hsilent⟩
    exact chooseName_of_silent hsilent

/-- **What is the name otherwise**: that of the leader, or the target's own. -/
theorem chooseName_eq_some_iff {choice : NameChoice} :
    chooseName targetName shortName direct requests = .ok (some choice) ↔
      (requests.filter (·.encourage)).length ≤ 1 ∧
        ((∃ leader, Leads direct requests leader ∧
            choice = ⟨leader.name, leader.rank.source leader.aliasId⟩) ∨
          (direct ∧ (∀ request ∈ requests, request.rank < .own) ∧
            choice = ⟨shortName, .target⟩)) := by
  constructor
  · intro hsome
    by_cases hone : (requests.filter (·.encourage)).length ≤ 1
    · refine ⟨hone, ?_⟩
      rcases exists_leads direct requests with ⟨leader, h⟩ | ⟨rfl, hbelow⟩ | ⟨rfl, hsilent⟩
      · rw [h.chooseName_eq hone] at hsome
        cases hsome
        exact .inl ⟨leader, h, rfl⟩
      · rw [chooseName_of_lt_own hbelow] at hsome
        cases hsome
        exact .inr ⟨rfl, hbelow, rfl⟩
      · rw [chooseName_of_silent hsilent] at hsome
        cases hsome
    · rw [Alias.chooseName_eq_error hone] at hsome
      cases hsome
  · rintro ⟨hone, ⟨leader, h, rfl⟩ | ⟨rfl, hbelow, rfl⟩⟩
    · exact h.chooseName_eq hone
    · exact chooseName_of_lt_own hbelow

/-! ### Changes that do not matter -/

/-- The leaders of a list and of a permutation of it have the same rank. -/
theorem Leads.exists_of_perm {others : List Request} (h : Leads direct requests leader)
    (hperm : requests.Perm others) :
    ∃ other, Leads direct others other ∧ other.rank = leader.rank := by
  have hleader : leader ∈ requests := List.mem_of_find?_eq_some h.first
  obtain ⟨other, hother⟩ :=
    exists_leads_of_lt (hperm.mem_iff.1 hleader) h.asks h.before_target
  refine ⟨other, hother, le_antisymm ?_ (hother.best leader (hperm.mem_iff.1 hleader))⟩
  exact h.best other (hperm.mem_iff.2 (List.mem_of_find?_eq_some hother.first))

/-- **The order of requests** says neither whether there is a name nor of what rank it is. -/
theorem fate_of_perm {others : List Request} (hperm : requests.Perm others) :
    fate (chooseName targetName shortName direct others) =
      fate (chooseName targetName shortName direct requests) := by
  have hlength : (others.filter (·.encourage)).length =
      (requests.filter (·.encourage)).length := (hperm.filter _).symm.length_eq
  by_cases hone : (requests.filter (·.encourage)).length ≤ 1
  · rcases exists_leads direct requests with ⟨leader, h⟩ | ⟨rfl, hbelow⟩ | ⟨rfl, hsilent⟩
    · obtain ⟨other, hother, hrank⟩ := h.exists_of_perm hperm
      rw [h.chooseName_eq hone, hother.chooseName_eq (hlength ▸ hone)]
      have hfate {leader : Request} (hasks : .silent < leader.rank) :
          fate (.ok (some (leader.choice leader.rank.source))) = some (some leader.rank) :=
        congrArg (some <| some ·) (Request.source_rank hasks leader.aliasId).1
      rw [hfate h.asks, hfate hother.asks, hrank]
    · rw [chooseName_of_lt_own hbelow,
        chooseName_of_lt_own fun request hrequest ↦ hbelow request (hperm.mem_iff.2 hrequest)]
    · rw [chooseName_of_silent hsilent,
        chooseName_of_silent fun request hrequest ↦ hsilent request (hperm.mem_iff.2 hrequest)]
  · rw [Alias.chooseName_eq_error hone, Alias.chooseName_eq_error (hlength ▸ hone)]
    rfl

section Insert

variable {front back : List Request} {request : Request}

/-- A request that is not encouraged adds none to those that are. -/
theorem filter_encourage_insert (h : request.rank ≠ .encouraged) :
    (front ++ request :: back).filter (·.encourage) = (front ++ back).filter (·.encourage) := by
  have hflag : ¬ request.encourage := fun hflag ↦ h (Request.rank_eq_encouraged.2 hflag)
  rw [List.filter_append, List.filter_append, List.filter_cons_of_neg hflag]

/-- A leader still leads when a request is added anywhere that ranks lower, or behind the leader
one that ranks no higher. -/
theorem Leads.insert (h : Leads direct (front ++ back) leader)
    (hlater : request.rank < leader.rank ∨ leader ∈ front ∧ request.rank ≤ leader.rank) :
    Leads direct (front ++ request :: back) leader := by
  have hle : request.rank ≤ leader.rank := hlater.elim le_of_lt And.right
  have hfirst := h.first
  refine ⟨?_, ?_, h.asks, h.before_target⟩
  · rw [List.find?_append] at hfirst ⊢
    rcases hlater with hlt | ⟨hleader, -⟩
    · rwa [List.find?_cons_of_neg (by simpa using hlt.ne)]
    · -- The leader itself is in front, so the search ends there.
      obtain ⟨first, hfound⟩ := Option.isSome_iff_exists.1
        (List.find?_isSome.2 ⟨leader, hleader, decide_eq_true rfl⟩ :
          (front.find? (·.rank = leader.rank)).isSome)
      rw [hfound, Option.some_or] at hfirst ⊢
      exact hfirst
  · intro other hother
    rw [List.mem_append, List.mem_cons, or_left_comm, ← List.mem_append] at hother
    rcases hother with rfl | hother
    · exact hle
    · exact h.best other hother

/-- **A lower request** changes no name, wherever it comes in. -/
theorem chooseName_insert_of_lt {choice : NameChoice}
    (hchoice : chooseName targetName shortName direct (front ++ back) = .ok (some choice))
    (hlt : request.rank < choice.source.rank) :
    chooseName targetName shortName direct (front ++ request :: back) = .ok (some choice) := by
  obtain ⟨hone, hwho⟩ := chooseName_eq_some_iff.1 hchoice
  rw [← filter_encourage_insert (hlt.trans_le (Rank.le_encouraged _)).ne] at hone
  refine chooseName_eq_some_iff.2 ⟨hone, hwho.imp ?_ ?_⟩
  · rintro ⟨leader, h, rfl⟩
    rw [(Request.source_rank h.asks leader.aliasId).1] at hlt
    exact ⟨leader, h.insert (.inl hlt), rfl⟩
  · rintro ⟨hdirect, hbelow, rfl⟩
    refine ⟨hdirect, fun other hother ↦ ?_, rfl⟩
    rw [List.mem_append, List.mem_cons, or_left_comm, ← List.mem_append] at hother
    rcases hother with rfl | hother
    · exact hlt
    · exact hbelow other hother

/-- **An equal request behind the leader** changes nothing, unless both are encouraged. -/
theorem chooseName_insert_of_eq (h : Leads direct (front ++ back) leader) (hfront : leader ∈ front)
    (heq : request.rank = leader.rank) (hrank : request.rank ≠ .encouraged) :
    chooseName targetName shortName direct (front ++ request :: back) =
      chooseName targetName shortName direct (front ++ back) := by
  have hlt : leader.rank < .encouraged := lt_of_le_of_ne (Rank.le_encouraged _) (heq ▸ hrank)
  have hone : ((front ++ back).filter (·.encourage)).length ≤ 1 :=
    length_encouraged_le_one fun other hother ↦ (h.best other hother).trans_lt hlt
  rw [h.chooseName_eq hone]
  rw [← filter_encourage_insert hrank] at hone
  exact (h.insert (.inr ⟨hfront, heq.le⟩)).chooseName_eq hone

/-- A second encouraged request leaves no decision. -/
theorem chooseName_insert_of_encouraged (hleader : leader ∈ front ++ back)
    (hencouraged : leader.rank = .encouraged) (heq : request.rank = leader.rank) :
    ∃ problem,
      chooseName targetName shortName direct (front ++ request :: back) = .error problem := by
  refine ⟨_, chooseName_eq_error_iff.2 ⟨?_, rfl⟩⟩
  have hrequest : request.encourage := Request.rank_eq_encouraged.1 (heq.trans hencouraged)
  have hmem : leader ∈ (front ++ back).filter (·.encourage) :=
    List.mem_filter.2 ⟨hleader, Request.rank_eq_encouraged.1 hencouraged⟩
  have hpos := List.length_pos_of_mem hmem
  rw [List.filter_append, List.length_append] at hpos
  rw [List.filter_append, List.filter_cons, if_pos hrequest, List.length_append, List.length_cons]
  omega

end Insert

end Choice

/-- **The choice of a name is stable.** Two encouraged requests contradict each other, without any
candidate there is no name, and otherwise the first of the best rank names the target, be it a
request or the target itself. So neither the order of the requests nor further requests change more
than ranks and places say, and the name always comes from the one that is said to give it. -/
theorem chooseName_stable (targetName shortName : String) (direct : Bool)
    (requests : List Request) :
    (∀ problem, chooseName targetName shortName direct requests = .error problem ↔
      2 ≤ (requests.filter (·.encourage)).length ∧
        problem = .ambiguousEncouragement targetName
          ((requests.filter (·.encourage)).map (·.qualifiedName))) ∧
    (chooseName targetName shortName direct requests = .ok none ↔
      direct = false ∧ ∀ request ∈ requests,
        request.isExplicit = false ∧ request.implicit = false) ∧
    (∀ choice, chooseName targetName shortName direct requests = .ok (some choice) ↔
      (requests.filter (·.encourage)).length ≤ 1 ∧
        ((∃ leader, Leads direct requests leader ∧
            choice = ⟨leader.name, leader.rank.source leader.aliasId⟩) ∨
          (direct ∧ (∀ request ∈ requests, request.rank < .own) ∧
            choice = ⟨shortName, .target⟩))) ∧
    (∀ others, requests.Perm others →
      fate (chooseName targetName shortName direct others) =
        fate (chooseName targetName shortName direct requests)) ∧
    (∀ front back, front ++ back = requests → ∀ choice request,
      chooseName targetName shortName direct requests = .ok (some choice) →
      request.rank < choice.source.rank →
        chooseName targetName shortName direct (front ++ request :: back) = .ok (some choice)) ∧
    (∀ front back, front ++ back = requests → ∀ leader request,
      Leads direct requests leader → leader ∈ front → request.rank = leader.rank →
        if request.rank = .encouraged then
          ∃ problem,
            chooseName targetName shortName direct (front ++ request :: back) = .error problem
        else
          chooseName targetName shortName direct (front ++ request :: back) =
            chooseName targetName shortName direct requests) ∧
    (∀ choice, chooseName targetName shortName direct requests = .ok (some choice) →
      match choice.source.aliasId? with
      | some id => ∃ request ∈ requests, request.aliasId = id ∧ request.name = choice.externalName
      | none => direct ∧ choice.externalName = shortName) := by
  refine ⟨fun problem ↦ chooseName_eq_error_iff, ?_, fun choice ↦ chooseName_eq_some_iff,
    fun others ↦ fate_of_perm, ?_, ?_, ?_⟩
  · simp only [chooseName_eq_none_iff, Request.rank_eq_silent]
  · rintro front back rfl choice request hchoice hlt
    exact chooseName_insert_of_lt hchoice hlt
  · rintro front back rfl leader request h hfront heq
    -- Two that encourage contradict each other; of any other rank the first one goes on leading.
    split_ifs with hencouraged
    · exact chooseName_insert_of_encouraged (List.mem_append_left _ hfront)
        (heq ▸ hencouraged) heq
    · exact chooseName_insert_of_eq h hfront heq hencouraged
  · intro choice hchoice
    -- A name is that of the leading request or of the target, and its source says which.
    obtain ⟨-, ⟨leader, h, rfl⟩ | ⟨hdirect, -, rfl⟩⟩ := chooseName_eq_some_iff.1 hchoice
    · rw [(Request.source_rank h.asks leader.aliasId).2]
      exact ⟨leader, List.mem_of_find?_eq_some h.first, rfl, rfl⟩
    · exact ⟨hdirect, rfl⟩

/-- An alias that moves a visible point keeps naming it when another one that is merely bound comes
in before it, and one that moves the point as well behind it. -/
theorem chooseName_spot :
    let spot : Request := ⟨⟨3⟩, "api::Spot", "Spot", ⟨2⟩, true, false, some ⟨2⟩, false⟩
    let dot : Request := ⟨⟨4⟩, "api::Dot", "Dot", ⟨2⟩, true, false, none, true⟩
    let blot : Request := ⟨⟨5⟩, "api::Blot", "Blot", ⟨3⟩, false, false, some ⟨3⟩, false⟩
    chooseName "core::Point" "Point" true [spot] = .ok (some ⟨"Spot", .relocation ⟨3⟩⟩) ∧
      dot.rank < spot.rank ∧ blot.rank = spot.rank ∧
      chooseName "core::Point" "Point" true [dot, spot] =
        .ok (some ⟨"Spot", .relocation ⟨3⟩⟩) ∧
      chooseName "core::Point" "Point" true [spot, blot] =
        chooseName "core::Point" "Point" true [spot] := by
  intro spot dot blot
  obtain ⟨-, -, -, -, hlower, hequal, -⟩ := chooseName_stable "core::Point" "Point" true [spot]
  have hleads : Leads true [spot] spot := ⟨rfl, by simp, by decide, fun _ ↦ by decide⟩
  exact ⟨rfl, by decide, rfl, hlower [] [spot] rfl _ dot rfl (by decide),
    hequal [spot] [] rfl spot blot hleads (List.mem_singleton_self _) rfl⟩

end Exposure.Alias
