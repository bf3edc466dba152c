import Exposure.Proofs.Document.Built
import Exposure.Proofs.Graph.Extension

/-!
# Histories of drafts

A draft is put together by calls, and each call is accepted or rejected by what the draft holds by
then. This file follows a whole history of calls, accepted and rejected in any mix
(`Draft.callAll`), up to the graph that the draft may be built into.

What the draft holds are the accepted calls, in their order (`Draft.Holds`): this is the invariant
of a history (`Draft.Holds.call`, `Draft.Holds.callAll`). When the draft is built, each accepted
declaration is settled in its place (`Draft.getElem?_of_settleParents`), and a graph that is well
formed lists its declarations in order (`WellFormed.pairwise_traversal`).
-/

namespace Exposure.Graph

/-- A call on a draft. -/
inductive Call where
  | addModule (name : String) (marks : List Mark)
  | addDeclaration (spec : Spec)
  deriving DecidableEq, Repr

/-- An identity that is given out when a call is accepted. -/
inductive Identity where
  | module (id : ModuleId)
  | declaration (id : DeclId)
  deriving DecidableEq, Repr

namespace Call

/-- The name and the marks of a module that is to be added. -/
def module? : Call → Option (String × List Mark)
  | addModule name marks => some (name, marks)
  | addDeclaration _ => none

/-- What is said of a declaration that is to be added. -/
def spec? : Call → Option Spec
  | addModule .. => none
  | addDeclaration spec => some spec

/-- The identity that comes next for a call, when others have been accepted before. -/
def identity (accepted : List Call) : Call → Identity
  | addModule .. => .module (.ofIndex (accepted.filterMap module?).length)
  | addDeclaration _ => .declaration (.ofIndex (accepted.filterMap spec?).length)

/-- **A call fits those accepted before**: its name is new, and a declaration belongs to a module
that was accepted and has a target just if it is an alias. -/
def Fits (accepted : List Call) : Call → Prop
  | addModule name _ => name ∉ (accepted.filterMap module?).map (·.1)
  | addDeclaration spec =>
    Name.withoutGlobal spec.name ∉
        (accepted.filterMap spec?).map (fun other ↦ Name.withoutGlobal other.name) ∧
      spec.module ∈ (accepted.filterMap module?).map (·.1) ∧
      spec.target.isSome = decide (spec.kind = .typeAlias)

instance (accepted : List Call) : (call : Call) → Decidable (call.Fits accepted)
  | addModule _ _ => inferInstanceAs (Decidable (_ ∉ _))
  | addDeclaration _ => inferInstanceAs (Decidable (_ ∧ _))

end Call

namespace Draft

/-- Makes a call: the draft afterwards, and the identity given out or the fault found. -/
def call (draft : Draft) : Call → Draft × Except Fault Identity
  | .addModule name marks =>
    match draft.addModule name marks with
    | .ok (next, id) => (next, .ok (.module id))
    | .error fault => (draft, .error fault)
  | .addDeclaration spec =>
    match draft.addDeclaration spec with
    | .ok (next, id) => (next, .ok (.declaration id))
    | .error fault => (draft, .error fault)

/-- Makes calls one after the other. -/
def callAll (draft : Draft) (calls : List Call) : Draft :=
  calls.foldl (fun draft call ↦ (draft.call call).1) draft

/-- The calls that are accepted when they are made one after the other. -/
def accepted (draft : Draft) : List Call → List Call
  | [] => []
  | call :: rest =>
    match draft.call call with
    | (next, .ok _) => call :: accepted next rest
    | (next, .error _) => accepted next rest

/-! ### One call -/

/-- **A rejected call leaves the draft as it was.** -/
theorem call_eq_error {draft next : Draft} {call : Call} {fault : Fault}
    (h : draft.call call = (next, .error fault)) : next = draft := by
  cases call with
  | addModule name marks =>
    rw [Draft.call] at h
    split at h <;> cases h
    rfl
  | addDeclaration spec =>
    rw [Draft.call] at h
    split at h <;> cases h
    rfl

/-- An accepted call is an accepted addition. -/
theorem call_eq_ok {draft next : Draft} {call : Call} {identity : Identity}
    (h : draft.call call = (next, .ok identity)) :
    (∃ name marks id, call = .addModule name marks ∧ identity = .module id ∧
      draft.addModule name marks = .ok (next, id)) ∨
    ∃ spec id, call = .addDeclaration spec ∧ identity = .declaration id ∧
      draft.addDeclaration spec = .ok (next, id) := by
  cases call with
  | addModule name marks =>
    rw [Draft.call] at h
    split at h <;> cases h
    rename_i id hadd
    exact .inl ⟨name, marks, id, rfl, rfl, hadd⟩
  | addDeclaration spec =>
    rw [Draft.call] at h
    split at h <;> cases h
    rename_i id hadd
    exact .inr ⟨spec, id, rfl, rfl, hadd⟩

/-- A declaration is accepted under the next number, into the module that it names. -/
theorem exists_pending_of_addDeclaration {draft next : Draft} {spec : Spec} {id : DeclId}
    (h : draft.addDeclaration spec = .ok (next, id)) :
    id = .ofIndex draft.pending.length ∧ ∃ module ∈ draft.modules, module.name = spec.module ∧
      next = ⟨draft.modules, draft.pending ++ [spec.pending module.id draft.pending.length]⟩ := by
  obtain ⟨-, -, module, hmodule, hid, hnext⟩ := addDeclaration_eq_ok_iff.1 h
  refine ⟨hid, module, List.mem_of_find?_eq_some hmodule, ?_, hnext⟩
  simpa using List.find?_some hmodule

/-- A module is accepted exactly if its name is new. -/
theorem exists_addModule_eq_ok_iff {draft : Draft} {name : String} (marks : List Mark) :
    (∃ next id, draft.addModule name marks = .ok (next, id)) ↔
      name ∉ draft.modules.map (·.name) := by
  have hnew : name ∉ draft.modules.map (·.name) ↔
      ∀ module ∈ draft.modules, module.name ≠ name := by
    simp
  rw [hnew]
  constructor
  · rintro ⟨next, id, hadd⟩
    exact (addModule_eq_ok_iff.1 hadd).1
  · intro hfresh
    exact ⟨_, _, addModule_eq_ok_iff.2 ⟨hfresh, rfl, rfl⟩⟩

/-- A declaration is accepted exactly if its name is new, its module known and its target in
order. -/
theorem exists_addDeclaration_eq_ok_iff {draft : Draft} {spec : Spec} :
    (∃ next id, draft.addDeclaration spec = .ok (next, id)) ↔
      Name.withoutGlobal spec.name ∉ draft.declarations.map (·.name) ∧
        spec.module ∈ draft.modules.map (·.name) ∧
        spec.target.isSome = decide (spec.kind = .typeAlias) := by
  have hnew : Name.withoutGlobal spec.name ∉ draft.declarations.map (·.name) ↔
      ∀ declaration ∈ draft.declarations, declaration.name ≠ Name.withoutGlobal spec.name := by
    simp
  have hknown : spec.module ∈ draft.modules.map (·.name) ↔
      ∃ module, draft.moduleNamed spec.module = some module := by
    rw [← isSome_moduleNamed, Option.isSome_iff_exists]
  rw [hnew, hknown]
  constructor
  · rintro ⟨next, id, hadd⟩
    obtain ⟨hfresh, htarget, module, hmodule, -⟩ := addDeclaration_eq_ok_iff.1 hadd
    exact ⟨hfresh, ⟨module, hmodule⟩, htarget⟩
  · rintro ⟨hfresh, ⟨module, hmodule⟩, htarget⟩
    exact ⟨_, _, addDeclaration_eq_ok_iff.2 ⟨hfresh, htarget, module, hmodule, rfl, rfl⟩⟩

/-- **What a draft holds** when calls have been accepted: their modules and declarations, in this
order and numbered by it. -/
structure Holds (draft : Draft) (calls : List Call) : Prop where
  modules : draft.modules.map (fun module ↦ (module.name, module.marks)) =
    calls.filterMap Call.module?
  declaration_count : draft.pending.length = (calls.filterMap Call.spec?).length
  declarations : ∀ (index : Nat) (spec : Spec), (calls.filterMap Call.spec?)[index]? = some spec →
    ∃ module ∈ draft.modules, module.name = spec.module ∧
      draft.pending[index]? = some (spec.pending module.id index)

namespace Holds

variable {draft next : Draft} {calls : List Call}

theorem empty : Draft.empty.Holds [] :=
  ⟨rfl, rfl, by simp⟩

theorem module_count (h : draft.Holds calls) :
    draft.modules.length = (calls.filterMap Call.module?).length := by
  rw [← h.modules, List.length_map]

theorem module_names (h : draft.Holds calls) :
    draft.modules.map (·.name) = (calls.filterMap Call.module?).map (·.1) := by
  rw [← h.modules, List.map_map]
  rfl

theorem declaration_names (h : draft.Holds calls) :
    draft.declarations.map (·.name) =
      (calls.filterMap Call.spec?).map fun spec ↦ Name.withoutGlobal spec.name := by
  rw [Draft.declarations, List.map_map]
  refine List.ext_getElem? fun index ↦ ?_
  rw [List.getElem?_map, List.getElem?_map]
  rcases hspec : (calls.filterMap Call.spec?)[index]? with - | spec
  · rw [List.getElem?_eq_none_iff, ← h.declaration_count, ← List.getElem?_eq_none_iff] at hspec
    rw [hspec]
    rfl
  · obtain ⟨module, -, -, hpending⟩ := h.declarations index spec hspec
    rw [hpending]
    rfl

theorem addModule (h : draft.Holds calls) {name : String} {marks : List Mark} {id : ModuleId}
    (hadd : draft.addModule name marks = .ok (next, id)) :
    next.Holds (calls ++ [.addModule name marks]) := by
  obtain ⟨-, rfl⟩ := addModule_eq_ok hadd
  have hspecs : (calls ++ [Call.addModule name marks]).filterMap Call.spec? =
      calls.filterMap Call.spec? := by simp [Call.spec?]
  refine ⟨?_, ?_, ?_⟩
  · simp [h.modules, Call.module?]
  · rw [hspecs, ← h.declaration_count]
  · intro index spec hspec
    rw [hspecs] at hspec
    obtain ⟨module, hmodule, hpending⟩ := h.declarations index spec hspec
    exact ⟨module, List.mem_append_left _ hmodule, hpending⟩

theorem addDeclaration (h : draft.Holds calls) {spec : Spec} {id : DeclId}
    (hadd : draft.addDeclaration spec = .ok (next, id)) :
    next.Holds (calls ++ [.addDeclaration spec]) := by
  obtain ⟨-, module, hmodule, hname, rfl⟩ := exists_pending_of_addDeclaration hadd
  have hspecs : (calls ++ [Call.addDeclaration spec]).filterMap Call.spec? =
      calls.filterMap Call.spec? ++ [spec] := by simp [Call.spec?]
  refine ⟨?_, ?_, ?_⟩
  · simp [h.modules, Call.module?]
  · rw [hspecs, List.length_append, List.length_append, h.declaration_count]
    rfl
  · intro index other hother
    rw [hspecs] at hother
    -- The new declaration is the last one, the others were there.
    rcases Nat.lt_or_ge index (calls.filterMap Call.spec?).length with hlt | hge
    · rw [List.getElem?_append_left hlt] at hother
      obtain ⟨owner, howner, hownerName, hpending⟩ := h.declarations index other hother
      refine ⟨owner, howner, hownerName, ?_⟩
      rw [List.getElem?_append_left (h.declaration_count ▸ hlt), hpending]
    · rw [List.getElem?_append_right hge, List.getElem?_singleton] at hother
      obtain ⟨hindex, hsame⟩ : index - (calls.filterMap Call.spec?).length = 0 ∧ spec = other := by
        simpa using hother
      obtain rfl : index = draft.pending.length := by rw [h.declaration_count]; omega
      subst hsame
      exact ⟨module, hmodule, hname, List.getElem?_concat_length⟩

/-- **A call is accepted exactly if it fits** those that are held. -/
theorem exists_call_eq_ok_iff (h : draft.Holds calls) {one : Call} :
    (∃ next identity, draft.call one = (next, .ok identity)) ↔ one.Fits calls := by
  cases one with
  | addModule name marks =>
    rw [Call.Fits, ← h.module_names, ← exists_addModule_eq_ok_iff marks, Draft.call]
    split
    · rename_i hadd
      exact iff_of_true ⟨_, _, rfl⟩ ⟨_, _, hadd⟩
    · rename_i hadd
      rw [hadd]
      exact iff_of_false (by rintro ⟨_, _, ⟨⟩⟩) (by rintro ⟨_, _, ⟨⟩⟩)
  | addDeclaration spec =>
    rw [Call.Fits, ← h.module_names, ← h.declaration_names, ← exists_addDeclaration_eq_ok_iff,
      Draft.call]
    split
    · rename_i hadd
      exact iff_of_true ⟨_, _, rfl⟩ ⟨_, _, hadd⟩
    · rename_i hadd
      rw [hadd]
      exact iff_of_false (by rintro ⟨_, _, ⟨⟩⟩) (by rintro ⟨_, _, ⟨⟩⟩)

/-- **An accepted call** is held behind the others, and its identity is the next one. -/
theorem call (h : draft.Holds calls) {one : Call} {identity : Identity}
    (hcall : draft.call one = (next, .ok identity)) :
    next.Holds (calls ++ [one]) ∧ identity = one.identity calls := by
  obtain ⟨name, marks, id, rfl, rfl, hadd⟩ | ⟨spec, id, rfl, rfl, hadd⟩ := call_eq_ok hcall
  · obtain ⟨-, rfl, -⟩ := addModule_eq_ok_iff.1 hadd
    exact ⟨h.addModule hadd, by rw [Call.identity, h.module_count]⟩
  · obtain ⟨rfl, -⟩ := exists_pending_of_addDeclaration hadd
    exact ⟨h.addDeclaration hadd, by rw [Call.identity, h.declaration_count]⟩

/-- **After a history the accepted calls are held**, by induction on the calls. -/
theorem callAll (h : draft.Holds calls) (more : List Call) :
    (draft.callAll more).Holds (calls ++ draft.accepted more) := by
  induction more generalizing draft calls with
  | nil =>
    rw [Draft.accepted, List.append_nil]
    exact h
  | cons one more ih =>
    rw [Draft.accepted, Draft.callAll, List.foldl_cons]
    split
    · rename_i next identity hcall
      rw [hcall, List.append_cons]
      exact ih (h.call hcall).1
    · rename_i next fault hcall
      obtain rfl := call_eq_error hcall
      rw [hcall]
      exact ih h

end Holds

/-! ### Histories -/

/-- A call goes on with a history, or leaves the draft as it was. -/
theorem Reached.call {draft : Draft} (h : draft.Reached) (one : Call) :
    (draft.call one).1.Reached := by
  rcases hcall : draft.call one with ⟨next, fault | identity⟩
  · exact call_eq_error hcall ▸ h
  · obtain ⟨_, _, _, -, -, hadd⟩ | ⟨_, _, -, -, hadd⟩ := call_eq_ok hcall
    · exact h.addModule hadd
    · exact h.addDeclaration hadd

/-- Calls come to a draft that is reached by accepted additions. -/
theorem Reached.callAll {draft : Draft} (h : draft.Reached) (calls : List Call) :
    (draft.callAll calls).Reached := by
  induction calls generalizing draft with
  | nil => exact h
  | cons one calls ih => exact ih (h.call one)

theorem callAll_concat (draft : Draft) (calls : List Call) (one : Call) :
    draft.callAll (calls ++ [one]) = ((draft.callAll calls).call one).1 :=
  List.foldl_concat ..

/-- Every draft that is reached is what a history of calls comes to. -/
theorem Reached.exists_callAll {draft : Draft} (h : draft.Reached) :
    ∃ calls, Draft.empty.callAll calls = draft := by
  induction h with
  | empty => exact ⟨[], rfl⟩
  | @addModule _ _ name marks _ _ haccepted ih =>
    obtain ⟨calls, rfl⟩ := ih
    exact ⟨calls ++ [.addModule name marks], by rw [callAll_concat, Draft.call, haccepted]⟩
  | @addDeclaration _ _ spec _ _ haccepted ih =>
    obtain ⟨calls, rfl⟩ := ih
    exact ⟨calls ++ [.addDeclaration spec], by rw [callAll_concat, Draft.call, haccepted]⟩

/-! ### Settling -/

/-- A settled declaration is the accepted one, inside the accepted name scope that it names, or
inside none if it names none. -/
theorem parent_of_settleParent {accepted : List Declaration} {pending : Pending}
    {declaration : Declaration} (h : settleParent accepted pending = .ok declaration) :
    (pending.parentName = none → declaration = pending.declaration) ∧
      ∀ name, pending.parentName = some name → ∃ scope ∈ accepted, scope.name = name ∧
        scope.kind = .scope ∧
        declaration = { pending.declaration with parent := some scope.id } := by
  rw [settleParent] at h
  split at h
  · rename_i hnone
    cases h
    refine ⟨fun _ ↦ rfl, fun name hname ↦ ?_⟩
    exact absurd (hnone.symm.trans hname) (Option.some_ne_none name).symm
  · rename_i parentName hparent
    split at h
    · cases h
    · rename_i scope hscope
      split at h
      · rename_i hkind
        cases h
        refine ⟨fun hnone ↦ absurd (hparent.symm.trans hnone) (Option.some_ne_none parentName),
          fun name hname ↦ ?_⟩
        obtain rfl := Option.some.inj (hparent.symm.trans hname)
        exact ⟨scope, List.mem_of_find?_eq_some hscope, by simpa using List.find?_some hscope,
          hkind, rfl⟩
      · cases h

/-- Declarations are settled each in its place. -/
theorem getElem?_of_settleParents {accepted : List Declaration} {pending : List Pending}
    {declarations : List Declaration} (h : settleParents accepted pending = .ok declarations)
    {index : Nat} {one : Pending} (hone : pending[index]? = some one) :
    ∃ declaration, declarations[index]? = some declaration ∧
      settleParent accepted one = .ok declaration := by
  induction pending generalizing declarations index with
  | nil => cases hone
  | cons first rest ih =>
    obtain ⟨settled, others, hfirst, hrest, rfl⟩ := settleParents_cons_eq_ok h
    cases index with
    | zero =>
      obtain rfl := Option.some.inj hone
      exact ⟨settled, rfl, hfirst⟩
    | succ index => exact ih hrest hone

end Draft

/-! ### Orders of well-formed graphs -/

/-- In a list numbered from one the numbers go up. -/
theorem pairwise_of_numbered {α : Type} {xs : List α} {number : α → Nat}
    (hnumbers : xs.map number = (List.range xs.length).map (· + 1)) :
    xs.Pairwise fun a b ↦ number a < number b := by
  rw [← List.pairwise_map (R := (· < ·)), hnumbers]
  exact List.pairwise_lt_range.map _ fun _ _ h ↦ Nat.succ_lt_succ h

/-- In traversal order one declaration comes before another: its module does, or it does within
their module. -/
def Precedes (a b : Declaration) : Prop :=
  a.module.number < b.module.number ∨ a.module = b.module ∧ a.id.number < b.id.number

namespace WellFormed

variable {graph : Graph} (h : graph.WellFormed)
include h

theorem pairwise_declarations :
    graph.declarations.Pairwise fun a b ↦ a.id.number < b.id.number := by
  refine pairwise_of_numbered ?_
  have hids := congrArg (List.map DeclId.number) h.declaration_ids
  rwa [List.map_map, List.map_map] at hids

theorem pairwise_modules : graph.modules.Pairwise fun a b ↦ a.id.number < b.id.number := by
  refine pairwise_of_numbered ?_
  have hids := congrArg (List.map ModuleId.number) h.module_ids
  rwa [List.map_map, List.map_map] at hids

/-- **The traversal goes up**, by modules and within a module by declarations. -/
theorem pairwise_traversal : graph.traversal.Pairwise Precedes := by
  have hmember {declaration : Declaration} {module : Module}
      (hmem : declaration ∈ graph.members module.id) : declaration.module = module.id := by
    simpa using (List.mem_filter.1 hmem).2
  refine List.pairwise_flatMap.2 ⟨fun module _ ↦ ?_, ?_⟩
  · refine (h.pairwise_declarations.filter _).imp_of_mem fun ha hb hlt ↦ .inr ⟨?_, hlt⟩
    rw [hmember ha, hmember hb]
  · refine h.pairwise_modules.imp fun {one other} hlt a ha b hb ↦ .inl ?_
    rwa [hmember ha, hmember hb]

end WellFormed

end Exposure.Graph
