import Exposure.Proofs.Document.Profiles
import Exposure.Proofs.Graph.Refusals

/-!
# Documents that have a graph

What a document must fulfil to have a graph is told from its records alone (`Document.Acceptable`),
and so is the fault it has otherwise: the first one, where modules come before declarations,
declarations before parents, and single parents before the chains that they make up
(`Document.FirstFault`). The two exclude each other (`Document.Acceptable.not_firstFault`).

That no other document has a graph rests on how records and declarations go together
(`Graph.Renders`): member by member, under the plain name, with the kind that the word stands for.
What parents lead to is then the same by the names of the records and by the names of the
declarations (`Document.SettlesInto.under_eq`).

All of it is stated in `Document.toGraph_exact`.
-/

namespace Exposure

open Exposure.Graph (Draft Pending Fault ComesToLoop)
open Relation (ReflTransGen TransGen)

/-! ### Kinds -/

/-- **The words for kinds**, each with the kind that it stands for. -/
def Kind.words : List (String × Kind) :=
  [("struct", .record), ("class", .record), ("alias", .typeAlias), ("typedef", .typeAlias),
   ("function", .function), ("namespace", .scope), ("enum", .enumeration)]

/-- A word is read as the kind that it stands for. -/
theorem Kind.ofText?_eq_some_iff {word : String} {kind : Kind} :
    ofText? word = some kind ↔ (word, kind) ∈ words := by
  constructor
  · intro h
    unfold ofText? at h
    split at h <;> simp_all [words]
  · intro h
    simp only [words, List.mem_cons, Prod.mk.injEq, List.not_mem_nil, or_false] at h
    rcases h with ⟨rfl, rfl⟩ | ⟨rfl, rfl⟩ | ⟨rfl, rfl⟩ | ⟨rfl, rfl⟩ | ⟨rfl, rfl⟩ | ⟨rfl, rfl⟩ |
      ⟨rfl, rfl⟩ <;> rfl

/-- A word that stands for no kind is none of the words. -/
theorem Kind.ofText?_eq_none_iff {word : String} :
    ofText? word = none ↔ word ∉ words.map (·.1) := by
  rw [← not_iff_not, not_not, ← ne_eq, Option.ne_none_iff_exists', List.mem_map]
  simp only [ofText?_eq_some_iff]
  constructor
  · rintro ⟨kind, hword⟩
    exact ⟨_, hword, rfl⟩
  · rintro ⟨⟨_, kind⟩, hword, rfl⟩
    exact ⟨kind, hword⟩

/-- Two of the words stand for aliases, and one for name scopes. -/
theorem Kind.special_words {word : String} {kind : Kind} (h : (word, kind) ∈ words) :
    (word ∈ ["alias", "typedef"] ↔ kind = .typeAlias) ∧ (word = "namespace" ↔ kind = .scope) := by
  simp only [words, List.mem_cons, Prod.mk.injEq, List.not_mem_nil, or_false] at h
  rcases h with ⟨rfl, rfl⟩ | ⟨rfl, rfl⟩ | ⟨rfl, rfl⟩ | ⟨rfl, rfl⟩ | ⟨rfl, rfl⟩ | ⟨rfl, rfl⟩ |
    ⟨rfl, rfl⟩ <;> decide

/-! ### What a document must fulfil -/

/-- The name that a record declares. -/
def DeclarationRecord.plainName (record : DeclarationRecord) : String :=
  Name.withoutGlobal record.name

/-- The parent of a record is the name of a name scope among some records. -/
def DeclarationRecord.ParentFits (records : List DeclarationRecord) (record : DeclarationRecord) :
    Prop :=
  ∀ parent, record.parent = some parent →
    ∃ scope ∈ records, scope.plainName = Name.withoutGlobal parent ∧ scope.kind = "namespace"

namespace Document

/-- Records that fit into modules and together, but for their parents. -/
structure RecordsFit (modules : List ModuleRecord) (records : List DeclarationRecord) : Prop where
  kinds : ∀ record ∈ records, record.kind ∈ Kind.words.map (·.1)
  names : (records.map (·.plainName)).Nodup
  owners : ∀ record ∈ records, record.module ∈ modules.map (·.name)
  targets : ∀ record ∈ records, record.target.isSome ↔ record.kind ∈ ["alias", "typedef"]

/-- One name is that of a record, the other that of its parent. -/
def Under (document : Document) (inner outer : String) : Prop :=
  ∃ record ∈ document.declarations, record.plainName = inner ∧
    record.parent.map Name.withoutGlobal = some outer

/-- **What a document must fulfil to have a graph.** -/
structure Acceptable (document : Document) : Prop where
  modules : (document.modules.map (·.name)).Nodup
  records : RecordsFit document.modules document.declarations
  parents : ∀ record ∈ document.declarations, record.ParentFits document.declarations
  nesting : ∀ record ∈ document.declarations, ¬ ComesToLoop document.Under record.plainName

/-! ### The first fault -/

/-- **The fault of a record** behind others: of what is wrong with it, what is tested first. -/
inductive RecordFault (modules : List ModuleRecord) (before : List DeclarationRecord)
    (record : DeclarationRecord) : Fault → Prop
  | kind (unknown : record.kind ∉ Kind.words.map (·.1)) :
      RecordFault modules before record (.invalidKind record.name record.kind)
  | name (known : record.kind ∈ Kind.words.map (·.1))
      (taken : record.plainName ∈ before.map (·.plainName)) :
      RecordFault modules before record (.duplicateDeclaration record.plainName)
  | module (known : record.kind ∈ Kind.words.map (·.1))
      (new : record.plainName ∉ before.map (·.plainName))
      (unlisted : record.module ∉ modules.map (·.name)) :
      RecordFault modules before record (.unknownModule record.plainName record.module)
  | missingTarget (known : record.kind ∈ Kind.words.map (·.1))
      (new : record.plainName ∉ before.map (·.plainName))
      (listed : record.module ∈ modules.map (·.name))
      (isAlias : record.kind ∈ ["alias", "typedef"]) (missing : record.target = none) :
      RecordFault modules before record (.missingAliasTarget record.plainName)
  | strayTarget (known : record.kind ∈ Kind.words.map (·.1))
      (new : record.plainName ∉ before.map (·.plainName))
      (listed : record.module ∈ modules.map (·.name))
      (other : record.kind ∉ ["alias", "typedef"]) (stray : record.target.isSome) :
      RecordFault modules before record (.unexpectedAliasTarget record.plainName)

/-- The fault of a record whose parent is unknown or no name scope. -/
inductive ParentFault (records : List DeclarationRecord) (record : DeclarationRecord) :
    Fault → Prop
  | unknown {parent : String} (named : record.parent = some parent)
      (undeclared : Name.withoutGlobal parent ∉ records.map (·.plainName)) :
      ParentFault records record (.unknownParent record.plainName (Name.withoutGlobal parent))
  | notScope {parent : String} {outer : DeclarationRecord} (named : record.parent = some parent)
      (declared : outer ∈ records) (name : outer.plainName = Name.withoutGlobal parent)
      (kind : outer.kind ≠ "namespace") :
      ParentFault records record (.parentNotScope record.plainName (Name.withoutGlobal parent))

/-- **The first fault of a document**: of the first module that does not fit; if all fit, of the
first record; if all fit, of the first record whose parent does not; if all do, of the first record
whose parents come to a loop, with a name on the loop. -/
inductive FirstFault (document : Document) : Fault → Prop
  | module {before rest : List ModuleRecord} {record : ModuleRecord}
      (split : document.modules = before ++ record :: rest)
      (fit : (before.map (·.name)).Nodup) (taken : record.name ∈ before.map (·.name)) :
      FirstFault document (.duplicateModule record.name)
  | record {before rest : List DeclarationRecord} {record : DeclarationRecord} {fault : Fault}
      (modules : (document.modules.map (·.name)).Nodup)
      (split : document.declarations = before ++ record :: rest)
      (fit : RecordsFit document.modules before)
      (found : RecordFault document.modules before record fault) :
      FirstFault document fault
  | parent {before rest : List DeclarationRecord} {record : DeclarationRecord} {fault : Fault}
      (modules : (document.modules.map (·.name)).Nodup)
      (records : RecordsFit document.modules document.declarations)
      (split : document.declarations = before ++ record :: rest)
      (fit : ∀ earlier ∈ before, earlier.ParentFits document.declarations)
      (found : ParentFault document.declarations record fault) :
      FirstFault document fault
  | loop {before rest : List DeclarationRecord} {record : DeclarationRecord} {again : String}
      (modules : (document.modules.map (·.name)).Nodup)
      (records : RecordsFit document.modules document.declarations)
      (parents : ∀ record ∈ document.declarations, record.ParentFits document.declarations)
      (split : document.declarations = before ++ record :: rest)
      (fit : ∀ earlier ∈ before, ¬ ComesToLoop document.Under earlier.plainName)
      (leads : ReflTransGen document.Under record.plainName again)
      (round : TransGen document.Under again again) :
      FirstFault document (.cyclicParent record.plainName again)

/-- A name that is taken does not fit behind those before it. -/
theorem not_nodup_of_taken {α : Type} {name : α → String} {before rest : List α} {one : α}
    (h : name one ∈ before.map name) : ¬ ((before ++ one :: rest).map name).Nodup := by
  rw [List.map_append, List.map_cons]
  intro hnodup
  exact (List.nodup_append.1 hnodup).2.2 _ h _ List.mem_cons_self rfl

/-- A record that fits has no fault. -/
theorem RecordsFit.not_recordFault {modules : List ModuleRecord}
    {before rest : List DeclarationRecord} {record : DeclarationRecord} {fault : Fault}
    (h : RecordsFit modules (before ++ record :: rest)) :
    ¬ RecordFault modules before record fault := by
  have hmem : record ∈ before ++ record :: rest := by simp
  rintro (unknown | ⟨-, taken⟩ | ⟨-, -, unlisted⟩ | ⟨-, -, -, isAlias, missing⟩ |
    ⟨-, -, -, other, stray⟩)
  · exact unknown (h.kinds record hmem)
  · exact not_nodup_of_taken taken h.names
  · exact unlisted (h.owners record hmem)
  · have hsome := (h.targets record hmem).2 isAlias
    rw [missing] at hsome
    cases hsome
  · exact other ((h.targets record hmem).1 stray)

/-- A record whose parent fits has no fault in it. -/
theorem not_parentFault {records : List DeclarationRecord} {record : DeclarationRecord}
    {fault : Fault} (hnames : (records.map (·.plainName)).Nodup) (h : record.ParentFits records) :
    ¬ ParentFault records record fault := by
  rintro (⟨named, undeclared⟩ | ⟨named, declared, name, kind⟩)
  · obtain ⟨scope, hscope, hname, -⟩ := h _ named
    exact undeclared (hname ▸ List.mem_map_of_mem hscope)
  · obtain ⟨scope, hscope, hname, hkind⟩ := h _ named
    rw [List.inj_on_of_nodup_map hnames hscope declared (hname.trans name.symm)] at hkind
    exact kind hkind

/-- **What is acceptable has no fault.** -/
theorem Acceptable.not_firstFault {document : Document} {fault : Fault}
    (h : document.Acceptable) : ¬ document.FirstFault fault := by
  have hmember {before rest : List DeclarationRecord} {record : DeclarationRecord}
      (split : document.declarations = before ++ record :: rest) :
      record ∈ document.declarations := by
    rw [split]
    simp
  rintro (⟨split, -, taken⟩ | ⟨-, split, -, found⟩ | ⟨-, -, split, -, found⟩ |
    ⟨-, -, -, split, -, leads, round⟩)
  · exact not_nodup_of_taken taken (split ▸ h.modules)
  · exact (split ▸ h.records).not_recordFault found
  · exact not_parentFault h.records.names (h.parents _ (hmember split)) found
  · exact h.nesting _ (hmember split) ⟨_, leads, round⟩

/-! ### Modules -/

/-- The modules of a draft are those of the records, in the same order. -/
theorem modules_of_addModules {draft next : Draft} {records : List ModuleRecord}
    (h : addModules draft records = .ok next) :
    next.modules.map (fun module ↦ ModuleRecord.mk module.name module.marks) =
      draft.modules.map (fun module ↦ ModuleRecord.mk module.name module.marks) ++ records := by
  induction records generalizing draft with
  | nil =>
    cases h
    rw [List.append_nil]
  | cons record rest ih =>
    rw [addModules] at h
    split at h
    · cases h
    · rename_i added id haccepted
      obtain ⟨-, rfl⟩ := Draft.addModule_eq_ok haccepted
      rw [ih h, List.map_append]
      simp

/-- Modules that are accepted have the names of the records, which are distinct. -/
theorem names_of_addModules {draft : Draft} {records : List ModuleRecord}
    (h : addModules .empty records = .ok draft) :
    draft.modules.map (·.name) = records.map (·.name) ∧ (records.map (·.name)).Nodup := by
  have hmodules := congrArg (List.map ModuleRecord.name) (modules_of_addModules h)
  have hnames : draft.modules.map (·.name) = records.map (·.name) := by
    rw [List.map_map] at hmodules
    exact hmodules
  exact ⟨hnames, hnames ▸ (reached_of_addModules .empty h).sound.module_names⟩

/-- Of several modules the first that is not accepted is refused. -/
theorem of_addModules_eq_error {draft : Draft} {records : List ModuleRecord} {fault : Fault}
    (h : addModules draft records = .error fault) :
    ∃ before record rest middle, records = before ++ record :: rest ∧
      addModules draft before = .ok middle ∧
      middle.addModule record.name record.marks = .error fault := by
  induction records generalizing draft with
  | nil => cases h
  | cons record rest ih =>
    rw [addModules] at h
    split at h
    · rename_i hrefused
      cases h
      exact ⟨[], record, rest, draft, rfl, rfl, hrefused⟩
    · rename_i added id haccepted
      obtain ⟨before, one, others, middle, rfl, hbefore, hone⟩ := ih h
      refine ⟨record :: before, one, others, middle, rfl, ?_, hone⟩
      rw [addModules, haccepted]
      exact hbefore

/-! ### Declarations -/

/-- **What the profile of a record says.** -/
theorem profile?_eq_some_iff {moduleNamed : String → Option Module} {record : DeclarationRecord}
    {profile : Profile} :
    record.profile? moduleNamed = some profile ↔
      ∃ kind module, (record.kind, kind) ∈ Kind.words ∧ moduleNamed record.module = some module ∧
        ⟨record.plainName, kind, module.id, record.parent.map Name.withoutGlobal, record.target,
          record.marks⟩ = profile := by
  simp only [← Kind.ofText?_eq_some_iff]
  rw [DeclarationRecord.profile?]
  rcases Kind.ofText? record.kind with - | kind
  · simp
  · rcases moduleNamed record.module with - | module
    · simp
    · simp [DeclarationRecord.plainName]

/-- **Records are accepted one by one**, each with its profile. -/
theorem forall₂_of_addDeclarations {draft next : Draft} {records : List DeclarationRecord}
    (hpending : draft.pending = []) (h : addDeclarations draft records = .ok next) :
    next.modules = draft.modules ∧ List.Forall₂ (fun record pending ↦
      record.profile? draft.moduleNamed = some pending.profile) records next.pending := by
  obtain ⟨profiles, hprofiles, -, -, -, rfl⟩ := addDeclarations_eq_ok.1 h
  refine ⟨rfl, ?_⟩
  rw [hpending, List.nil_append]
  have hsame : records.map (·.profile? draft.moduleNamed) =
      (numbered 0 profiles).map fun pending ↦ some pending.profile := by
    rw [hprofiles]
    conv_lhs => rw [← map_profile_numbered 0 profiles]
    rw [List.map_map]
    rfl
  refine List.forall₂_map_left_iff.1 (List.forall₂_map_right_iff.1 ?_)
  rw [hsame]
  exact List.forall₂_refl _

/-- Of several records the first that is not accepted is refused: for its kind, or as a
declaration. -/
theorem of_addDeclarations_eq_error {draft : Draft} {records : List DeclarationRecord}
    {fault : Fault} (h : addDeclarations draft records = .error fault) :
    ∃ before record rest middle, records = before ++ record :: rest ∧
      addDeclarations draft before = .ok middle ∧
      (Kind.ofText? record.kind = none ∧ fault = .invalidKind record.name record.kind ∨
        ∃ kind, Kind.ofText? record.kind = some kind ∧
          middle.addDeclaration ⟨record.name, kind, record.module, record.parent, record.target,
            record.marks⟩ = .error fault) := by
  induction records generalizing draft with
  | nil => cases h
  | cons record rest ih =>
    rw [addDeclarations] at h
    split at h
    · rename_i hkind
      cases h
      exact ⟨[], record, rest, draft, rfl, rfl, .inl ⟨hkind, rfl⟩⟩
    · rename_i kind hkind
      split at h
      · rename_i hrefused
        cases h
        exact ⟨[], record, rest, draft, rfl, rfl, .inr ⟨kind, hkind, hrefused⟩⟩
      · rename_i added id haccepted
        obtain ⟨before, one, others, middle, rfl, hbefore, hone⟩ := ih h
        refine ⟨record :: before, one, others, middle, rfl, ?_, hone⟩
        rw [addDeclarations, hkind]
        dsimp only
        rw [haccepted]
        exact hbefore

section Accepted

variable {modules : List ModuleRecord} {records : List DeclarationRecord} {start draft : Draft}
  (hstart : addModules .empty modules = .ok start)
  (hdraft : addDeclarations start records = .ok draft)
include hstart hdraft

/-- Declarations are accepted into the listed modules. -/
theorem module_names_of_accepted : draft.modules.map (·.name) = modules.map (·.name) := by
  rw [(forall₂_of_addDeclarations (pending_of_addModules hstart) hdraft).1]
  exact (names_of_addModules hstart).1

/-- Each record is accepted under its plain name, with the kind that its word stands for. -/
theorem forall₂_of_accepted :
    List.Forall₂ (fun record pending ↦ pending.declaration.name = record.plainName ∧
      (record.kind, pending.declaration.kind) ∈ Kind.words ∧
      record.module ∈ modules.map (·.name) ∧
      pending.parentName = record.parent.map Name.withoutGlobal ∧
      pending.declaration.target = record.target) records draft.pending := by
  obtain ⟨-, hmatch⟩ := forall₂_of_addDeclarations (pending_of_addModules hstart) hdraft
  refine hmatch.imp fun record pending hprofile ↦ ?_
  obtain ⟨kind, module, hkind, hmodule, heq⟩ := profile?_eq_some_iff.1 hprofile
  rw [Pending.profile, Profile.mk.injEq] at heq
  obtain ⟨hname, rfl, -, hparent, htarget, -⟩ := heq
  refine ⟨hname.symm, hkind, ?_, hparent.symm, htarget.symm⟩
  rw [← (names_of_addModules hstart).1, ← Draft.isSome_moduleNamed, hmodule]
  rfl

/-- The accepted names are the plain names of the records. -/
theorem declaration_names_of_accepted :
    draft.declarations.map (·.name) = records.map (·.plainName) := by
  rw [Draft.declarations, List.map_map, ← List.forall₂_eq_eq_eq, List.forall₂_map_left_iff,
    List.forall₂_map_right_iff]
  exact (forall₂_of_accepted hstart hdraft).flip.imp fun pending record h ↦ h.1

/-- **Records that are accepted fit.** -/
theorem recordsFit_of_accepted : RecordsFit modules records := by
  have hmatch := forall₂_of_accepted hstart hdraft
  have hsound : draft.Sound :=
    (reached_of_addDeclarations (reached_of_addModules .empty hstart) hdraft).sound
  refine ⟨fun record hmem ↦ ?_, ?_, fun record hmem ↦ ?_, fun record hmem ↦ ?_⟩
  · obtain ⟨pending, -, -, hkind, -⟩ := exists_mem_of_forall₂ hmatch hmem
    exact List.mem_map_of_mem hkind
  · rw [← declaration_names_of_accepted hstart hdraft]
    exact hsound.declaration_names
  · obtain ⟨pending, -, -, -, howner, -⟩ := exists_mem_of_forall₂ hmatch hmem
    exact howner
  · obtain ⟨pending, hpending, -, hkind, -, -, htarget⟩ := exists_mem_of_forall₂ hmatch hmem
    have halias := hsound.targets pending.declaration (List.mem_map_of_mem hpending)
    rw [htarget] at halias
    rw [halias, (Kind.special_words hkind).1, Declaration.isAlias]
    simp

/-- **A record that is refused behind accepted ones** has the fault that it is refused with. -/
theorem recordFault_of_refused {record : DeclarationRecord} {fault : Fault}
    (h : Kind.ofText? record.kind = none ∧ fault = .invalidKind record.name record.kind ∨
      ∃ kind, Kind.ofText? record.kind = some kind ∧
        draft.addDeclaration ⟨record.name, kind, record.module, record.parent, record.target,
          record.marks⟩ = .error fault) :
    RecordFault modules records record fault := by
  rcases h with ⟨hkind, rfl⟩ | ⟨kind, hkind, hrefused⟩
  · exact .kind (Kind.ofText?_eq_none_iff.1 hkind)
  · have hword := Kind.ofText?_eq_some_iff.1 hkind
    have hknown : record.kind ∈ Kind.words.map (·.1) := List.mem_map_of_mem hword
    obtain ⟨halias, -⟩ := Kind.special_words hword
    have hrefused := Draft.of_addDeclaration_eq_error hrefused
    rw [declaration_names_of_accepted hstart hdraft, module_names_of_accepted hstart hdraft]
      at hrefused
    rcases hrefused with ⟨htaken, rfl⟩ | ⟨hnew, ⟨hunlisted, rfl⟩ | ⟨hlisted, hcheck⟩⟩
    · exact .name hknown htaken
    · exact .module hknown hnew hunlisted
    · obtain ⟨hkindAlias, hmissing, rfl⟩ | ⟨hother, hstray, rfl⟩ :=
        Draft.of_checkTarget_eq_error hcheck
      · exact .missingTarget hknown hnew hlisted (halias.2 hkindAlias) hmissing
      · exact .strayTarget hknown hnew hlisted (fun hmem ↦ hother (halias.1 hmem)) hstray

/-- The parent of a record fits exactly if the parent of what it is accepted as settles. -/
theorem parentFits_iff_of_accepted {record : DeclarationRecord} {pending : Pending}
    (hparent : pending.parentName = record.parent.map Name.withoutGlobal) :
    record.ParentFits records ↔
      ∃ declaration, Draft.settleParent draft.declarations pending = .ok declaration := by
  have hmatch := forall₂_of_accepted hstart hdraft
  have hnames : (draft.declarations.map (·.name)).Nodup :=
    (reached_of_addDeclarations (reached_of_addModules .empty hstart)
      hdraft).sound.declaration_names
  rw [Draft.exists_settleParent_eq_ok hnames, hparent]
  constructor
  · intro hfits name hname
    obtain ⟨parent, hnamed, rfl⟩ := Option.map_eq_some_iff.1 hname
    obtain ⟨scope, hscope, hscopeName, hkind⟩ := hfits parent hnamed
    obtain ⟨accepted, hmem, hacceptedName, hword, -⟩ := exists_mem_of_forall₂ hmatch hscope
    exact ⟨accepted.declaration, List.mem_map_of_mem hmem, hacceptedName.trans hscopeName,
      (Kind.special_words hword).2.1 hkind⟩
  · intro hfits parent hnamed
    obtain ⟨_, hscope, hscopeName, hkind⟩ := hfits (Name.withoutGlobal parent) (by rw [hnamed]; rfl)
    obtain ⟨accepted, hmem, rfl⟩ := List.mem_map.1 hscope
    obtain ⟨outer, houter, houterName, hword, -⟩ := exists_mem_of_forall₂ hmatch.flip hmem
    exact ⟨outer, houter, houterName.symm.trans hscopeName, (Kind.special_words hword).2.2 hkind⟩

/-- If all parents settle, the parents of all records fit. -/
theorem parentFits_of_settled {declarations : List Declaration}
    (hsettled : Draft.settleParents draft.declarations draft.pending = .ok declarations) :
    ∀ record ∈ records, record.ParentFits records := by
  intro record hmem
  obtain ⟨pending, hpending, -, -, -, hparent, -⟩ :=
    exists_mem_of_forall₂ (forall₂_of_accepted hstart hdraft) hmem
  exact (parentFits_iff_of_accepted hstart hdraft hparent).2
    (Draft.exists_settleParents_eq_ok.1 ⟨_, hsettled⟩ pending hpending)

/-- **Of the records the first whose parent does not fit** has the fault that settling finds. -/
theorem exists_parentFault_of_refused {fault : Fault}
    (h : Draft.settleParents draft.declarations draft.pending = .error fault) :
    ∃ before record rest, records = before ++ record :: rest ∧
      (∀ earlier ∈ before, earlier.ParentFits records) ∧ ParentFault records record fault := by
  have hmatch := forall₂_of_accepted hstart hdraft
  obtain ⟨settled, one, others, hpending, hsettled, hrefused⟩ := Draft.of_settleParents_eq_error h
  have hsplit := hmatch
  rw [hpending] at hsplit
  obtain ⟨before, record, rest, hrecords, hbefore, hname, -, -, hparent, -⟩ :=
    exists_append_cons_of_forall₂ hsplit
  refine ⟨before, record, rest, hrecords, fun earlier hearlier ↦ ?_, ?_⟩
  · obtain ⟨pending, hmem, -, -, -, hparentName, -⟩ := exists_mem_of_forall₂ hbefore hearlier
    exact (parentFits_iff_of_accepted hstart hdraft hparentName).2 (hsettled pending hmem)
  · obtain ⟨name, hnamed, hfault⟩ := Draft.of_settleParent_eq_error hrefused
    rw [hparent] at hnamed
    obtain ⟨parent, hrecordParent, rfl⟩ := Option.map_eq_some_iff.1 hnamed
    rw [declaration_names_of_accepted hstart hdraft, hname] at hfault
    rcases hfault with ⟨hundeclared, rfl⟩ | ⟨scope, hscope, hscopeName, hkind, rfl⟩
    · exact .unknown hrecordParent hundeclared
    · obtain ⟨accepted, hmem, rfl⟩ := List.mem_map.1 hscope
      obtain ⟨outer, houter, houterName, hword, -⟩ := exists_mem_of_forall₂ hmatch.flip hmem
      exact .notScope hrecordParent houter (houterName.symm.trans hscopeName)
        fun hscopeKind ↦ hkind ((Kind.special_words hword).2.1 hscopeKind)

end Accepted

end Document

/-! ### Graphs of documents -/

/-- **A declaration of a graph renders a record**: it has its plain name, the kind that its word
stands for, its module and parent by name, and its target and marks as they are written. -/
structure Graph.Renders (graph : Graph) (record : DeclarationRecord) (declaration : Declaration) :
    Prop where
  name : declaration.name = record.plainName
  kind : (record.kind, declaration.kind) ∈ Kind.words
  module : graph.moduleName declaration.module = record.module
  parent : declaration.parent.map graph.declarationName = record.parent.map Name.withoutGlobal
  target : declaration.target = record.target
  marks : declaration.marks = record.marks

namespace Document

variable {document : Document} {graph : Graph}

/-- **What a document settles into renders its records**, one by one. -/
theorem SettlesInto.renders (h : document.SettlesInto graph) :
    List.Forall₂ graph.Renders document.declarations graph.declarations := by
  have hgraph := h.wellFormed
  have hprofiles : List.Forall₂ (fun record declaration ↦
      record.profile? graph.moduleNamed = some (graph.profile declaration))
      document.declarations graph.declarations := by
    refine List.forall₂_map_left_iff.1 (List.forall₂_map_right_iff.1 ?_)
    rw [h.profiles, List.map_map]
    exact List.forall₂_refl _
  refine hprofiles.imp fun record declaration hprofile ↦ ?_
  obtain ⟨kind, module, hkind, hmodule, heq⟩ := profile?_eq_some_iff.1 hprofile
  rw [Graph.profile, Profile.mk.injEq] at heq
  obtain ⟨hname, rfl, howner, hparent, htarget, hmarks⟩ := heq
  obtain ⟨hmem, hmoduleName⟩ := hgraph.moduleNamed_eq_some.1 hmodule
  refine ⟨hname.symm, hkind, ?_, hparent.symm, htarget.symm, hmarks.symm⟩
  rw [← howner, hgraph.moduleName_eq hmem]
  exact hmoduleName

/-- The modules of the graph are those of the document. -/
theorem SettlesInto.modules_eq (h : document.SettlesInto graph) :
    graph.modules.map (fun module ↦ ModuleRecord.mk module.name module.marks) =
      document.modules := by
  obtain ⟨start, draft, hstart, hdraft, -, hmodules⟩ := h
  rw [hmodules, (forall₂_of_addDeclarations (pending_of_addModules hstart) hdraft).1,
    modules_of_addModules hstart]
  rfl

/-- **By name, parents are the same in the document and in the graph.** -/
theorem SettlesInto.under_eq (h : document.SettlesInto graph) : document.Under = graph.Under := by
  have hrenders := h.renders
  funext inner outer
  refine propext ⟨?_, ?_⟩
  · rintro ⟨record, hmem, rfl, hparent⟩
    obtain ⟨declaration, hdeclaration, hrendered⟩ := exists_mem_of_forall₂ hrenders hmem
    exact ⟨declaration, hdeclaration, hrendered.name, hrendered.parent.trans hparent⟩
  · rintro ⟨declaration, hmem, rfl, hparent⟩
    obtain ⟨record, hrecord, hrendered⟩ := exists_mem_of_forall₂ hrenders.flip hmem
    exact ⟨record, hrecord, hrendered.name.symm, hrendered.parent.symm.trans hparent⟩

/-- What the last check refuses is the first record whose parents come to a loop. -/
theorem SettlesInto.exists_loop_of_refused (h : document.SettlesInto graph) {fault : Fault}
    (hcheck : Draft.checkChains graph [] graph.declarations = .error fault) :
    ∃ before record rest again, document.declarations = before ++ record :: rest ∧
      (∀ earlier ∈ before, ¬ ComesToLoop document.Under earlier.plainName) ∧
      ReflTransGen document.Under record.plainName again ∧
      TransGen document.Under again again ∧ fault = .cyclicParent record.plainName again := by
  obtain ⟨settled, one, others, again, hsplit, hfit, hleads, hround, rfl⟩ :=
    Draft.of_checkChains_eq_error h.wellFormed (by simp) (List.Subset.refl _) hcheck
  have hrenders := h.renders
  rw [hsplit] at hrenders
  obtain ⟨before, record, rest, hrecords, hbefore, hone⟩ := exists_append_cons_of_forall₂ hrenders
  rw [← h.under_eq] at hfit hleads hround
  rw [hone.name] at hleads ⊢
  refine ⟨before, record, rest, again, hrecords, fun earlier hearlier ↦ ?_, hleads, hround, rfl⟩
  obtain ⟨declaration, hdeclaration, hrendered⟩ := exists_mem_of_forall₂ hbefore hearlier
  rw [← hrendered.name]
  exact hfit declaration hdeclaration

/-- **A document that has a graph is acceptable.** -/
theorem acceptable_of_toGraph (h : document.toGraph = .ok graph) : document.Acceptable := by
  obtain ⟨hsettles, hcheck⟩ := toGraph_eq_ok_iff.1 h
  have hunder := hsettles.under_eq
  have hrenders := hsettles.renders
  have hnesting := (Draft.checkChains_eq_ok_iff hsettles.wellFormed).1 hcheck
  obtain ⟨start, draft, hstart, hdraft, hsettled, -⟩ := hsettles
  refine ⟨(names_of_addModules hstart).2, recordsFit_of_accepted hstart hdraft,
    parentFits_of_settled hstart hdraft hsettled, fun record hmem ↦ ?_⟩
  obtain ⟨declaration, hdeclaration, hrendered⟩ := exists_mem_of_forall₂ hrenders hmem
  rw [hunder, ← hrendered.name]
  exact hnesting declaration hdeclaration

/-- **A document that has no graph has the fault that is reported.** The cases are the stages. -/
theorem firstFault_of_toGraph {fault : Fault} (h : document.toGraph = .error fault) :
    document.FirstFault fault := by
  rw [toGraph_eq] at h
  split at h
  · rename_i hmodules
    cases h
    obtain ⟨before, record, rest, middle, hsplit, hbefore, hrefused⟩ :=
      of_addModules_eq_error hmodules
    obtain ⟨hnames, hfit⟩ := names_of_addModules hbefore
    obtain ⟨htaken, rfl⟩ := Draft.of_addModule_eq_error hrefused
    exact .module hsplit hfit (hnames ▸ htaken)
  · rename_i start hstart
    have hmodules := (names_of_addModules hstart).2
    split at h
    · rename_i hdeclarations
      cases h
      obtain ⟨before, record, rest, middle, hsplit, hbefore, hrefused⟩ :=
        of_addDeclarations_eq_error hdeclarations
      exact .record hmodules hsplit (recordsFit_of_accepted hstart hbefore)
        (recordFault_of_refused hstart hbefore hrefused)
    · rename_i draft hdraft
      have hrecords := recordsFit_of_accepted hstart hdraft
      rw [Draft.build] at h
      split at h
      · rename_i hparents
        cases h
        obtain ⟨before, record, rest, hsplit, hfit, hfound⟩ :=
          exists_parentFault_of_refused hstart hdraft hparents
        exact .parent hmodules hrecords hsplit hfit hfound
      · rename_i declarations hsettled
        -- All settles, so only the chains of parents are left to be refused.
        have hsettles : document.SettlesInto ⟨declarations, draft.modules⟩ :=
          ⟨start, draft, hstart, hdraft, hsettled, rfl⟩
        dsimp only at h
        rcases hcheck : Draft.checkChains ⟨declarations, draft.modules⟩ [] declarations with
          other | _
        · rw [hcheck] at h
          cases h
          obtain ⟨before, record, rest, again, hsplit, hfit, hleads, hround, rfl⟩ :=
            hsettles.exists_loop_of_refused hcheck
          exact .loop hmodules hrecords (parentFits_of_settled hstart hdraft hsettled) hsplit hfit
            hleads hround
        · rw [hcheck] at h
          cases h

/-- **Which documents have a graph, and which, and what fault the others have.** A document has a
graph exactly if it is acceptable: names of modules are distinct, kinds are among the known words,
plain names of records are distinct, modules are listed, targets stand on aliases only and on all of
them, parents are the plain names of name scopes of the document, and following parents never comes
to a loop. The graph has the modules of the document and renders its records, both in the order of
the document. Any other document is refused for the first fault that it has. -/
theorem toGraph_exact (document : Document) :
    ((∃ graph, document.toGraph = .ok graph) ↔ document.Acceptable) ∧
    (∀ graph, document.toGraph = .ok graph →
      graph.modules.map (fun module ↦ ModuleRecord.mk module.name module.marks) =
          document.modules ∧
        List.Forall₂ graph.Renders document.declarations graph.declarations) ∧
    ∀ fault, document.toGraph = .error fault → document.FirstFault fault := by
  refine ⟨⟨?_, fun hacceptable ↦ ?_⟩, fun graph hgraph ↦ ?_, fun fault ↦ firstFault_of_toGraph⟩
  · rintro ⟨graph, hgraph⟩
    exact acceptable_of_toGraph hgraph
  · rcases hresult : document.toGraph with fault | graph
    · exact absurd (firstFault_of_toGraph hresult) hacceptable.not_firstFault
    · exact ⟨graph, rfl⟩
  · obtain ⟨hsettles, -⟩ := toGraph_eq_ok_iff.1 hgraph
    exact ⟨hsettles.modules_eq, hsettles.renders⟩

/-- Of two things wrong with a record the name is found before the module, and whatever is wrong
with a record before any parent. -/
example : toGraph ⟨[⟨"core", []⟩],
    [⟨"inner", "struct", "core", some "nowhere", none, []⟩,
     ⟨"::inner", "enum", "missing", none, none, []⟩]⟩ = .error (.duplicateDeclaration "inner") :=
  rfl

end Document
end Exposure
