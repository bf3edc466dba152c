import Exposure.Proofs.Settings.Layers
import Exposure.Toml.Reader

/-!
# No key twice in a document

A table under construction changes by putting a node under one of its keys, in the place of what
was there, wherever headers and dotted keys lead (`Body.Distinct.within`). So no key comes up twice
in what is put together from values that have none, and the values are such tables themselves: this
goes through all readers up to `read` (`distinct_read`).
-/

namespace Exposure.Toml

open Settings (Entries Value)

/-! ### Tables under construction -/

theorem entriesOf_put (body : Body) (key : String) (node : Node) :
    entriesOf (body.put key node) = Entries.put (entriesOf body) key node.toValue := by
  induction body with
  | nil => rfl
  | cons first rest ih =>
    obtain ⟨other, old⟩ := first
    rw [Body.put, entriesOf, Entries.put]
    split
    · rfl
    · rw [entriesOf, ih]

theorem get?_entriesOf (body : Body) (key : String) :
    Entries.get? (entriesOf body) key = (body.get? key).map Node.toValue := by
  induction body with
  | nil => rfl
  | cons first rest ih =>
    obtain ⟨other, old⟩ := first
    rw [Body.get?, entriesOf, Entries.get?]
    split
    · rfl
    · exact ih

theorem tablesOf_eq_map (bodies : List Body) :
    tablesOf bodies = bodies.map fun body ↦ Value.table (entriesOf body) := by
  induction bodies with
  | nil => rfl
  | cons body rest ih => rw [tablesOf, ih, List.map_cons]

namespace Body

/-- No table in a table under construction has a key twice. -/
abbrev Distinct (body : Body) : Prop := (Value.table (entriesOf body)).Distinct

variable {body changed : Body} {key : String} {node : Node}

theorem distinct_nil : Distinct [] := Value.distinct_nil

theorem Distinct.put (h : body.Distinct) (hnode : node.toValue.Distinct) :
    (body.put key node).Distinct := by
  unfold Distinct
  rw [entriesOf_put]
  exact Value.Distinct.put h hnode key

theorem Distinct.get? (h : body.Distinct) (hnode : body.get? key = some node) :
    node.toValue.Distinct :=
  Value.Throughout.get? h (by rw [get?_entriesOf, hnode, Option.map_some])

/-- The tables of an array have no key twice if those in front and the last have none. -/
theorem distinct_tables {earlier : List Body} {last : Body} :
    (Node.tables earlier last).toValue.Distinct ↔
      (∀ body ∈ earlier, body.Distinct) ∧ last.Distinct := by
  rw [Node.toValue, tablesOf_eq_map]
  constructor
  · intro h
    have hitems := h.of_list
    simp only [List.forall_mem_append, List.forall_mem_map, List.forall_mem_singleton] at hitems
    exact hitems
  · rintro ⟨hearlier, hlast⟩
    refine .list ?_
    simp only [List.forall_mem_append, List.forall_mem_map, List.forall_mem_singleton]
    exact ⟨hearlier, hlast⟩

/-- **A change deep inside keeps the keys apart** if the change itself does. The induction follows
the path: on every level one node is put back. -/
theorem Distinct.within {made : Origin} {change : Origin → Body → Option Body}
    (hchange : ∀ origin body changed, body.Distinct → change origin body = some changed →
      changed.Distinct)
    {path : List String} {origin : Origin} (h : body.Distinct)
    (hwithin : within made change path origin body = some changed) : changed.Distinct := by
  induction path generalizing origin body changed with
  | nil => exact hchange origin body changed h hwithin
  | cons key path ih =>
    rw [Body.within] at hwithin
    split at hwithin
    · obtain ⟨inner, hinner, rfl⟩ := Option.map_eq_some_iff.1 hwithin
      exact h.put (ih Body.distinct_nil hinner)
    · cases hwithin
    · rename_i earlier last hnode
      obtain ⟨inner, hinner, rfl⟩ := Option.map_eq_some_iff.1 hwithin
      obtain ⟨hearlier, hlast⟩ := distinct_tables.1 (h.get? hnode)
      exact h.put (distinct_tables.2 ⟨hearlier, ih hlast hinner⟩)
    · rename_i other inner hnode
      split at hwithin
      · cases hwithin
      · obtain ⟨inner, hinner, rfl⟩ := Option.map_eq_some_iff.1 hwithin
        exact h.put (ih (h.get? hnode) hinner)

theorem Distinct.addValue {path : List String} {value : Value} (h : body.Distinct)
    (hvalue : value.Distinct) (hadd : body.addValue path key value = some changed) :
    changed.Distinct := by
  refine h.within (fun origin inner changed hinner hchange ↦ ?_) hadd
  split at hchange
  · obtain rfl := Option.some.inj hchange
    exact hinner.put hvalue
  · cases hchange

theorem Distinct.addValues {values : List Assignment} (h : body.Distinct)
    (hvalues : ∀ assignment ∈ values, assignment.value.Distinct)
    (hadd : body.addValues values = some changed) : changed.Distinct := by
  induction values generalizing body with
  | nil => exact Option.some.inj hadd ▸ h
  | cons first rest ih =>
    obtain ⟨hfirst, hrest⟩ := List.forall_mem_cons.1 hvalues
    obtain ⟨added, hadded, hadd⟩ := Option.bind_eq_some_iff.1 hadd
    exact ih (h.addValue hfirst hadded) hrest hadd

theorem Distinct.addTable {path : List String} {values : List Assignment} (h : body.Distinct)
    (hvalues : ∀ assignment ∈ values, assignment.value.Distinct)
    (hadd : body.addTable path key values = some changed) : changed.Distinct := by
  refine h.within (fun origin parent changed hparent hchange ↦ ?_) hadd
  split at hchange
  · obtain ⟨inner, hinner, rfl⟩ := Option.map_eq_some_iff.1 hchange
    exact hparent.put (distinct_nil.addValues hvalues hinner)
  · rename_i passed hnode
    obtain ⟨inner, hinner, rfl⟩ := Option.map_eq_some_iff.1 hchange
    exact hparent.put (Distinct.addValues (hparent.get? hnode) hvalues hinner)
  · cases hchange

theorem Distinct.addElement {path : List String} {values : List Assignment} (h : body.Distinct)
    (hvalues : ∀ assignment ∈ values, assignment.value.Distinct)
    (hadd : body.addElement path key values = some changed) : changed.Distinct := by
  refine h.within (fun origin parent changed hparent hchange ↦ ?_) hadd
  split at hchange
  · obtain ⟨inner, hinner, rfl⟩ := Option.map_eq_some_iff.1 hchange
    exact hparent.put (distinct_tables.2 ⟨List.forall_mem_nil _,
      distinct_nil.addValues hvalues hinner⟩)
  · rename_i earlier last hnode
    obtain ⟨inner, hinner, rfl⟩ := Option.map_eq_some_iff.1 hchange
    obtain ⟨hearlier, hlast⟩ := distinct_tables.1 (hparent.get? hnode)
    refine hparent.put (distinct_tables.2 ⟨?_,
      distinct_nil.addValues hvalues hinner⟩)
    exact List.forall_mem_append.2 ⟨hearlier, List.forall_mem_singleton.2 hlast⟩
  · cases hchange

end Body

/-! ### Values -/

/-- All that a reader reads has a property. -/
def Reader.Yields {α : Type} (reader : Reader α) (p : α → Prop) : Prop :=
  ∀ chars x rest, reader chars = some (x, rest) → p x

section Readers

variable {α : Type} {p : α → Prop}

theorem Reader.Yields.items {item : Reader α} (h : Reader.Yields item p) (steps : Nat) :
    Reader.Yields (items item steps) fun values ↦ ∀ x ∈ values, p x := by
  intro chars values rest hread
  induction steps generalizing chars values with
  | zero => cases hread
  | succ steps ih =>
    rw [Toml.items] at hread
    split at hread
    · cases hread
      exact List.forall_mem_nil _
    · obtain ⟨⟨first, behind⟩, hfirst, hread⟩ := Option.bind_eq_some_iff.1 hread
      have hp := h _ _ _ hfirst
      dsimp only at hread
      split at hread
      · obtain ⟨⟨more, other⟩, hmore, heq⟩ := Option.map_eq_some_iff.1 hread
        cases heq
        exact List.forall_mem_cons.2 ⟨hp, ih _ _ hmore⟩
      · cases hread
        exact List.forall_mem_singleton.2 hp
      · cases hread

end Readers

section Assignments

variable {reader : Reader Value}

theorem Reader.Yields.assignment {p : Value → Prop} (h : Reader.Yields reader p) :
    Reader.Yields (assignment reader) fun found ↦ p found.value := by
  intro chars found rest hread
  obtain ⟨⟨⟨path, key⟩, behind⟩, -, hread⟩ := Option.bind_eq_some_iff.1 hread
  dsimp only at hread
  split at hread
  · obtain ⟨⟨value, other⟩, hvalue, heq⟩ := Option.map_eq_some_iff.1 hread
    cases heq
    exact h _ _ _ hvalue
  · cases hread

theorem Reader.Yields.inlineAssignments {p : Value → Prop} (h : Reader.Yields reader p)
    (steps : Nat) :
    Reader.Yields (inlineAssignments reader steps) fun found ↦
      ∀ assignment ∈ found, p assignment.value := by
  intro chars found rest hread
  induction steps generalizing chars found with
  | zero => cases hread
  | succ steps ih =>
    obtain ⟨⟨first, behind⟩, hfirst, hread⟩ := Option.bind_eq_some_iff.1 hread
    have hp := h.assignment _ _ _ hfirst
    dsimp only at hread
    split at hread
    · obtain ⟨⟨more, other⟩, hmore, heq⟩ := Option.map_eq_some_iff.1 hread
      cases heq
      exact List.forall_mem_cons.2 ⟨hp, ih _ _ hmore⟩
    · cases hread
      exact List.forall_mem_singleton.2 hp
    · cases hread

theorem Reader.Yields.inlineTable (h : Reader.Yields reader Value.Distinct) :
    Reader.Yields (inlineTable reader) Value.Distinct := by
  intro chars found rest hread
  rw [Toml.inlineTable] at hread
  split at hread
  · cases hread
    exact Value.distinct_nil
  · obtain ⟨⟨assignments, behind⟩, hassignments, hread⟩ := Option.bind_eq_some_iff.1 hread
    obtain ⟨body, hbody, heq⟩ := Option.map_eq_some_iff.1 hread
    cases heq
    exact Body.Distinct.addValues Body.distinct_nil
      (h.inlineAssignments _ _ _ _ hassignments) hbody

end Assignments

theorem distinct_numeral : Reader.Yields numeral Value.Distinct := by
  intro chars found rest hread
  rw [numeral] at hread
  split at hread
  · cases hread
    exact .table (by simp) (List.forall_mem_singleton.2 (.single rfl))
  · split at hread
    · cases hread
      exact .single rfl
    · obtain ⟨⟨number, behind⟩, -, heq⟩ := Option.map_eq_some_iff.1 hread
      cases heq
      exact .single rfl

/-- One level of nesting has no key twice if the levels below have none. -/
theorem distinct_value_of {nesting : Nat}
    (hbelow : ∀ below, nesting = below + 1 → Reader.Yields (value below) Value.Distinct) :
    Reader.Yields (value nesting) Value.Distinct := by
  intro chars found rest hread
  rw [value.eq_def] at hread
  split at hread
  · cases hread
    exact .single rfl
  · cases hread
    exact .single rfl
  · split at hread
    · cases hread
    · obtain ⟨⟨values, behind⟩, hvalues, heq⟩ := Option.map_eq_some_iff.1 hread
      cases heq
      exact .list ((hbelow _ rfl).items _ _ _ _ hvalues)
  · split at hread
    · cases hread
    · exact (hbelow _ rfl).inlineTable _ _ _ hread
  · obtain ⟨⟨written, behind⟩, -, heq⟩ := Option.map_eq_some_iff.1 hread
    cases heq
    exact .single rfl
  · obtain ⟨⟨written, behind⟩, -, heq⟩ := Option.map_eq_some_iff.1 hread
    cases heq
    exact .single rfl
  · exact distinct_numeral _ _ _ hread

theorem distinct_value (nesting : Nat) : Reader.Yields (value nesting) Value.Distinct := by
  induction nesting with
  | zero => exact distinct_value_of fun below h ↦ nomatch h
  | succ nesting ih => exact distinct_value_of fun below h ↦ Nat.succ.inj h ▸ ih

/-! ### Documents -/

/-- No value that a line assigns has a key twice. -/
def Line.Distinct : Line → Prop
  | .header _ => True
  | .assignment found => found.value.Distinct

theorem distinct_statement : Reader.Yields statement Line.Distinct := by
  intro chars found rest hread
  unfold statement at hread
  split at hread
  · obtain ⟨⟨⟨path, key⟩, behind⟩, -, hread⟩ := Option.bind_eq_some_iff.1 hread
    dsimp only at hread
    split at hread
    · obtain ⟨other, -, heq⟩ := Option.map_eq_some_iff.1 hread
      cases heq
      trivial
    · cases hread
  · obtain ⟨⟨⟨path, key⟩, behind⟩, -, hread⟩ := Option.bind_eq_some_iff.1 hread
    dsimp only at hread
    split at hread
    · obtain ⟨other, -, heq⟩ := Option.map_eq_some_iff.1 hread
      cases heq
      trivial
    · cases hread
  · obtain ⟨⟨assignment, behind⟩, hassignment, hread⟩ := Option.bind_eq_some_iff.1 hread
    obtain ⟨other, -, heq⟩ := Option.map_eq_some_iff.1 hread
    cases heq
    exact (distinct_value mostNesting).assignment _ _ _ hassignment

theorem distinct_statements {steps : Nat} {chars : List Char} {lines : List Line}
    (h : statements steps chars = some lines) : ∀ line ∈ lines, line.Distinct := by
  induction steps generalizing chars lines with
  | zero => cases h
  | succ steps ih =>
    rw [statements] at h
    split at h
    · cases h
      exact List.forall_mem_nil _
    · obtain ⟨⟨first, behind⟩, hfirst, h⟩ := Option.bind_eq_some_iff.1 h
      obtain ⟨more, hmore, rfl⟩ := Option.map_eq_some_iff.1 h
      exact List.forall_mem_cons.2 ⟨distinct_statement _ _ _ hfirst, ih hmore⟩

/-- No value that a section assigns has a key twice. -/
def Section.Distinct (part : Section) : Prop :=
  ∀ assignment ∈ part.assignments, assignment.value.Distinct

theorem distinct_sections {lines : List Line} (h : ∀ line ∈ lines, line.Distinct)
    {current : Section} (hcurrent : current.Distinct) :
    ∀ part ∈ sections current lines, part.Distinct := by
  induction lines generalizing current with
  | nil => exact List.forall_mem_singleton.2 hcurrent
  | cons first rest ih =>
    obtain ⟨hfirst, hrest⟩ := List.forall_mem_cons.1 h
    cases first with
    | header header =>
      exact List.forall_mem_cons.2 ⟨hcurrent, ih hrest (List.forall_mem_nil _)⟩
    | assignment assignment =>
      exact ih hrest (List.forall_mem_append.2 ⟨hcurrent, List.forall_mem_singleton.2 hfirst⟩ :)

theorem distinct_assemble {parts : List Section} (h : ∀ part ∈ parts, part.Distinct)
    {body assembled : Body} (hbody : body.Distinct)
    (hassemble : assemble body parts = some assembled) : assembled.Distinct := by
  induction parts generalizing body with
  | nil => exact Option.some.inj hassemble ▸ hbody
  | cons part rest ih =>
    obtain ⟨hpart, hrest⟩ := List.forall_mem_cons.1 h
    obtain ⟨added, hadded, hassemble⟩ := Option.bind_eq_some_iff.1 hassemble
    refine ih hrest ?_ hassemble
    unfold addSection at hadded
    split at hadded
    · exact hbody.addValues hpart hadded
    · exact hbody.addTable hpart hadded
    · exact hbody.addElement hpart hadded

/-- **A document that is read has no key twice** in any of its tables. -/
theorem distinct_read {source : String} {entries : Entries} (h : read source = some entries) :
    (Value.table entries).Distinct := by
  obtain ⟨lines, hlines, h⟩ := Option.bind_eq_some_iff.1 h
  obtain ⟨body, hbody, rfl⟩ := Option.map_eq_some_iff.1 h
  refine distinct_assemble (distinct_sections (distinct_statements hlines) ?_)
    Body.distinct_nil hbody
  exact List.forall_mem_nil _

end Exposure.Toml
