import Exposure.Annotation.Extraction

/-!
# What marks say

The theory of plans speaks of the marks as the front end found them: whether a list of marks
**carries** a directive, what its payloads are once trimmed, and what it decides about exposure.
None of this needs the marks to be in order.

Where they are in order, reading them gives annotations that say the same
(`Annotations.has_of_read` and the lemmas after it), so whatever a run learns from annotations
can be told from marks. All of them rest on one inversion: a mark that reads is written with
the tag of a directive that may stand where the mark is, and becomes that directive with the
trimmed payload (`Mark.read_eq_ok`).
-/

namespace Exposure

/-- Whether a mark is written with the tag of a directive. -/
def Mark.gives (mark : Mark) (directive : Directive) : Bool := mark.tag = directive.text

/-- The payload of a mark without the blanks around it. -/
def Mark.trimmed (mark : Mark) : Option String := mark.payload.map Text.trim

namespace Marks

/-- Whether a list of marks carries a directive. -/
def carry (marks : List Mark) (directive : Directive) : Bool :=
  marks.any (·.gives directive)

/-- Whether a list of marks asks for exposure: any of three directives does. -/
def askExposure (marks : List Mark) : Bool :=
  carry marks .visible || carry marks .encourage || carry marks .exposeHere

/-- Whether a list of marks both asks for exposure and hides. -/
def conflict (marks : List Mark) : Bool :=
  askExposure marks && carry marks .hidden

/-- The exposure that a list of marks decides, if it decides one. -/
def decision? (marks : List Mark) : Option Bool :=
  match askExposure marks, carry marks .hidden with
  | true, false => some true
  | false, true => some false
  | _, _ => none

/-- The trimmed payloads of the marks with a directive, in order. -/
def payloads (marks : List Mark) (directive : Directive) : List String :=
  (marks.filter (·.gives directive)).filterMap (·.trimmed)

/-- Where the first `expose_here` mark wants the target emitted. -/
def destination? (marks : List Mark) : Option Destination :=
  (marks.find? (·.gives .exposeHere)).map fun mark ↦ mark.trimmed.elim .ownModule .named

theorem askExposure_iff {marks : List Mark} :
    askExposure marks ↔
      carry marks .visible ∨ carry marks .encourage ∨ carry marks .exposeHere := by
  rw [askExposure, Bool.or_eq_true, Bool.or_eq_true, or_assoc]

theorem conflict_iff {marks : List Mark} :
    conflict marks ↔ carry marks .hidden ∧
      (carry marks .visible ∨ carry marks .encourage ∨ carry marks .exposeHere) := by
  rw [conflict, Bool.and_eq_true, askExposure_iff, and_comm]

/-- A payload of a directive comes with the directive. -/
theorem carry_of_mem_payloads {marks : List Mark} {directive : Directive} {text : String}
    (h : text ∈ payloads marks directive) : carry marks directive := by
  obtain ⟨mark, hmark, -⟩ := List.mem_filterMap.1 h
  obtain ⟨hmem, hgives⟩ := List.mem_filter.1 hmark
  exact List.any_eq_true.2 ⟨mark, hmem, hgives⟩

/-- An emission site is asked for exactly by an `expose_here` mark. -/
theorem isSome_destination? (marks : List Mark) :
    (destination? marks).isSome = carry marks .exposeHere := by
  rw [destination?, Option.isSome_map, List.isSome_find?]
  rfl

end Marks

/-- Whether a declaration carries a directive. -/
def Declaration.carries (declaration : Declaration) (directive : Directive) : Bool :=
  Marks.carry declaration.marks directive

/-- Whether a declaration's own marks ask for exposure. -/
def Declaration.asksExposure (declaration : Declaration) : Bool :=
  Marks.askExposure declaration.marks

/-! ### Directives and their tags -/

namespace Directive

/-- A tag names no more than one directive. -/
theorem text_injective {a b : Directive} (h : a.text = b.text) : a = b := by
  have hb := ofText?_text b
  rw [← h, ofText?_text] at hb
  exact Option.some.inj hb

/-- What reads as a directive is its tag. -/
theorem text_of_ofText? {tag : String} {directive : Directive}
    (h : ofText? tag = some directive) : directive.text = tag := by
  simpa using List.find?_some h

@[simp]
theorem directive_withPayload (directive : Directive) (payload : Option String) :
    (directive.withPayload payload).directive = directive := by
  cases directive <;> rfl

end Directive

/-! ### One mark -/

namespace Mark

/-- **What a mark that reads is.** -/
theorem read_eq_ok {owner : String} {site : Site} {mark : Mark} {item : Annotation}
    (h : mark.read owner site = .ok item) :
    ∃ directive : Directive, mark.tag = directive.text ∧ directive.allowedOn site = true ∧
      (directive.payloadRule = .required → ∃ payload, mark.trimmed = some payload) ∧
      item = directive.withPayload mark.trimmed := by
  unfold read at h
  split at h
  · cases h
  · rename_i directive hdirective
    dsimp only at h
    split at h
    · rename_i hallowed
      split at h
      · cases h
      · split at h
        · cases h
        · cases h
        · rename_i hrequired
          cases h
          refine ⟨directive, (Directive.text_of_ofText? hdirective).symm, hallowed,
            fun hrule ↦ ?_, rfl⟩
          rcases hpayload : mark.payload.map Text.trim with - | payload
          · exact absurd hpayload (hrequired hrule)
          · exact ⟨payload, hpayload⟩
    · cases h

/-- **What is wrong with a mark that does not read**: its tag, or what the tag stands for where the
mark is. -/
theorem read_eq_error {owner : String} {site : Site} {mark : Mark} {problem : Problem}
    (h : mark.read owner site = .error problem) :
    (∃ tag, problem = .unknownTag owner tag) ∨
      ∃ directive reason, problem = .malformedMark owner directive reason := by
  unfold read at h
  split at h
  · cases h
    exact .inl ⟨_, rfl⟩
  · dsimp only at h
    split at h
    · split at h
      · cases h
        exact .inr ⟨_, _, rfl⟩
      · split at h <;> cases h <;> exact .inr ⟨_, _, rfl⟩
    · cases h
      exact .inr ⟨_, _, rfl⟩

/-- A mark that reads gives the directive it becomes and no other. -/
theorem gives_iff_of_read {owner : String} {site : Site} {mark : Mark} {item : Annotation}
    (h : mark.read owner site = .ok item) (directive : Directive) :
    mark.gives directive = decide (item.directive = directive) := by
  obtain ⟨found, htag, -, -, rfl⟩ := read_eq_ok h
  rw [gives, htag, Directive.directive_withPayload]
  exact decide_eq_decide.2 ⟨Directive.text_injective, congrArg _⟩

end Mark

/-! ### Lists of marks -/

namespace Annotations

variable {owner : String} {site : Site}

/-- A list reads when its first mark does and then the rest. -/
theorem read_cons_eq_ok {mark : Mark} {marks : List Mark} {annotations : Annotations} :
    read owner site (mark :: marks) = .ok annotations ↔
      ∃ item items, mark.read owner site = .ok item ∧ read owner site marks = .ok ⟨items⟩ ∧
        annotations = ⟨item :: items⟩ := by
  rcases hmark : mark.read owner site with problem | item
  · simp [read, problems, hmark]
  · rcases hproblems : problems owner site marks with - | ⟨problem, rest⟩
    · have hcons : problems owner site (mark :: marks) = [] := by
        rw [problems, List.filterMap_cons, hmark]
        exact hproblems
      simp only [read, hcons, hproblems, Except.ok.injEq]
      constructor
      · rintro rfl
        exact ⟨item, _, rfl, rfl, by simp [readable, hmark, Except.toOption]⟩
      · rintro ⟨item', items, hitem, hitems, rfl⟩
        cases hitem
        cases hitems
        simp [readable, hmark, Except.toOption]
    · have hcons : problems owner site (mark :: marks) = problem :: rest := by
        rw [problems, List.filterMap_cons, hmark]
        exact hproblems
      simp [read, hcons, hproblems]

/-- **A list reads exactly when each of its marks does.** -/
theorem exists_read_eq_ok {marks : List Mark} :
    (∃ annotations, read owner site marks = .ok annotations) ↔
      ∀ mark ∈ marks, ∃ item, mark.read owner site = .ok item := by
  induction marks with
  | nil => exact ⟨fun _ ↦ by simp, fun _ ↦ ⟨_, rfl⟩⟩
  | cons mark marks ih =>
    rw [List.forall_mem_cons, ← ih]
    constructor
    · rintro ⟨annotations, h⟩
      obtain ⟨item, items, hitem, hitems, -⟩ := read_cons_eq_ok.1 h
      exact ⟨⟨item, hitem⟩, ⟨_, hitems⟩⟩
    · rintro ⟨⟨item, hitem⟩, ⟨⟨items⟩, hitems⟩⟩
      exact ⟨_, read_cons_eq_ok.2 ⟨item, items, hitem, hitems, rfl⟩⟩

/-- A list that does not read has a problem to show for it. -/
theorem ne_nil_of_read_eq_error {marks : List Mark} {found : List Problem}
    (h : read owner site marks = .error found) : found ≠ [] := by
  unfold read at h
  split at h
  · cases h
  · rename_i hne
    cases h
    exact hne

/-- What is wrong with a list of marks is wrong with one of them. -/
theorem of_mem_problems {marks : List Mark} {problem : Problem}
    (h : problem ∈ problems owner site marks) :
    (∃ tag, problem = .unknownTag owner tag) ∨
      ∃ directive reason, problem = .malformedMark owner directive reason := by
  obtain ⟨mark, -, hmark⟩ := List.mem_filterMap.1 h
  rcases hread : mark.read owner site with found | item
  · rw [hread] at hmark
    cases hmark
    exact Mark.read_eq_error hread
  · rw [hread] at hmark
    cases hmark

/-- The problems that reading a list leaves are those of its marks. -/
theorem of_read_eq_error {marks : List Mark} {found : List Problem}
    (h : read owner site marks = .error found) : found = problems owner site marks := by
  unfold read at h
  split at h
  · cases h
  · cases h
    rfl

/-- What is carried may stand where it is. -/
theorem allowedOn_of_read {marks : List Mark} {annotations : Annotations}
    (h : read owner site marks = .ok annotations) {directive : Directive}
    (hcarry : Marks.carry marks directive = true) : directive.allowedOn site = true := by
  obtain ⟨mark, hmem, hgives⟩ := List.any_eq_true.1 hcarry
  obtain ⟨item, hitem⟩ := exists_read_eq_ok.1 ⟨_, h⟩ mark hmem
  obtain ⟨found, htag, hallowed, -⟩ := Mark.read_eq_ok hitem
  have htext : found.text = directive.text := htag.symm.trans (by simpa [Mark.gives] using hgives)
  rwa [← Directive.text_injective htext]

/-- Annotations give the directives that the marks carry. -/
theorem has_of_read {marks : List Mark} {annotations : Annotations}
    (h : read owner site marks = .ok annotations) (directive : Directive) :
    annotations.has directive = Marks.carry marks directive := by
  induction marks generalizing annotations with
  | nil =>
    cases h
    rfl
  | cons mark marks ih =>
    obtain ⟨item, items, hitem, hitems, rfl⟩ := read_cons_eq_ok.1 h
    have hrest : items.any (fun item ↦ item.directive = directive) =
        marks.any (·.gives directive) := ih hitems
    rw [has, Marks.carry, List.any_cons, List.any_cons, hrest, Mark.gives_iff_of_read hitem]

theorem asksExposure_of_read {marks : List Mark} {annotations : Annotations}
    (h : read owner site marks = .ok annotations) :
    annotations.asksExposure = Marks.askExposure marks := by
  simp only [asksExposure, Marks.askExposure, has_of_read h]

/-- Annotations are in conflict when the marks are. -/
theorem standing_eq_conflict_of_read {marks : List Mark} {annotations : Annotations}
    (h : read owner site marks = .ok annotations) :
    annotations.standing = .conflict ↔ Marks.conflict marks = true := by
  rw [standing, asksExposure_of_read h, has_of_read h, Marks.conflict]
  cases Marks.askExposure marks <;> cases Marks.carry marks .hidden <;> simp

/-- Annotations hide when the marks do, and ask for nothing besides. -/
theorem standing_eq_hidden_of_read {marks : List Mark} {annotations : Annotations}
    (h : read owner site marks = .ok annotations) :
    annotations.standing = .hidden ↔
      Marks.conflict marks = false ∧ Marks.carry marks .hidden = true := by
  rw [standing, asksExposure_of_read h, has_of_read h, Marks.conflict]
  cases Marks.askExposure marks <;> cases Marks.carry marks .hidden <;> simp

/-- Annotations ask for exposure without conflict when the marks do. -/
theorem standing_eq_visible_of_read {marks : List Mark} {annotations : Annotations}
    (h : read owner site marks = .ok annotations) :
    annotations.standing = .visible ↔
      Marks.askExposure marks = true ∧ Marks.carry marks .hidden = false := by
  rw [standing, asksExposure_of_read h, has_of_read h]
  cases Marks.askExposure marks <;> cases Marks.carry marks .hidden <;> simp

/-- Annotations say nothing about exposure when the marks do not. -/
theorem standing_eq_unset_of_read {marks : List Mark} {annotations : Annotations}
    (h : read owner site marks = .ok annotations) :
    annotations.standing = .unset ↔
      Marks.askExposure marks = false ∧ Marks.carry marks .hidden = false := by
  rw [standing, asksExposure_of_read h, has_of_read h]
  cases Marks.askExposure marks <;> cases Marks.carry marks .hidden <;> simp

/-- The site that annotations ask for is the one the marks ask for. -/
theorem destination?_of_read {marks : List Mark} {annotations : Annotations}
    (h : read owner site marks = .ok annotations) :
    annotations.destination? = Marks.destination? marks := by
  induction marks generalizing annotations with
  | nil =>
    cases h
    rfl
  | cons mark marks ih =>
    obtain ⟨item, items, hitem, hitems, rfl⟩ := read_cons_eq_ok.1 h
    have hrest := ih hitems
    have hgives := Mark.gives_iff_of_read hitem .exposeHere
    obtain ⟨directive, -, -, -, rfl⟩ := Mark.read_eq_ok hitem
    simp only [destination?, Marks.destination?, List.findSome?_cons, List.find?_cons, hgives,
      Directive.directive_withPayload] at hrest ⊢
    -- The first mark with the directive decides; any other lets the rest decide.
    cases directive with
    | exposeHere => cases htrimmed : mark.trimmed <;> simp [Directive.withPayload, htrimmed]
    | visible | hidden | encourage | manual | importModule => exact hrest

/-- The modules that annotations import are the payloads of the `import` marks. -/
theorem imports_of_read {marks : List Mark} {annotations : Annotations}
    (h : read owner site marks = .ok annotations) :
    annotations.imports = Marks.payloads marks .importModule := by
  induction marks generalizing annotations with
  | nil =>
    cases h
    rfl
  | cons mark marks ih =>
    obtain ⟨item, items, hitem, hitems, rfl⟩ := read_cons_eq_ok.1 h
    have hrest := ih hitems
    have hgives := Mark.gives_iff_of_read hitem .importModule
    obtain ⟨directive, -, -, hrequired, rfl⟩ := Mark.read_eq_ok hitem
    simp only [imports, Marks.payloads, List.filterMap_cons, List.filter_cons, hgives,
      Directive.directive_withPayload] at hrest ⊢
    cases directive with
    | importModule =>
      obtain ⟨payload, hpayload⟩ := hrequired rfl
      simpa [Directive.withPayload, hpayload] using hrest
    | visible | hidden | encourage | exposeHere | manual => exact hrest

/-- The hand-written code of annotations is that of the `manual` marks. -/
theorem manualBlocks_of_read {marks : List Mark} {annotations : Annotations}
    (h : read owner site marks = .ok annotations) :
    annotations.manualBlocks = Marks.payloads marks .manual := by
  induction marks generalizing annotations with
  | nil =>
    cases h
    rfl
  | cons mark marks ih =>
    obtain ⟨item, items, hitem, hitems, rfl⟩ := read_cons_eq_ok.1 h
    have hrest := ih hitems
    have hgives := Mark.gives_iff_of_read hitem .manual
    obtain ⟨directive, -, -, hrequired, rfl⟩ := Mark.read_eq_ok hitem
    simp only [manualBlocks, Marks.payloads, List.filterMap_cons, List.filter_cons, hgives,
      Directive.directive_withPayload] at hrest ⊢
    cases directive with
    | manual =>
      obtain ⟨payload, hpayload⟩ := hrequired rfl
      simpa [Directive.withPayload, hpayload] using hrest
    | visible | hidden | encourage | exposeHere | importModule => exact hrest

end Annotations
end Exposure
