import Exposure.Proofs.Annotation.Marks
import Mathlib.Data.List.Forall2

/-!
# Judging marks

Which marks are in order is told from the vocabulary alone (`Mark.Acceptable`): the tag is that of a
directive, the directive may stand at the site, and the trimmed payload is what the directive takes.
Such a mark reads, as the annotation that says the same (`Mark.Becomes`), and any other is refused
with the first thing that is wrong with it (`Mark.Refused`), where the tag comes before the site,
the site before an empty payload, and that before what the directive says about payloads.

Marks are judged one by one, so a list is read member by member. It reads if all of its marks do;
otherwise there is one problem for each mark that is refused and none for the others. What two lists
come to decides what they come to one behind the other (`Annotations.joined`).

All of it is stated in `Annotations.read_exact`.
-/

namespace Exposure

/-! ### What a directive takes -/

/-- **What a directive takes as its trimmed payload**: three directives take none, `expose_here`
takes any but an empty one, and two need one that is not empty. -/
def Directive.Takes : Directive → Option String → Prop
  | .visible, payload | .hidden, payload | .encourage, payload => payload = none
  | .exposeHere, payload => payload ≠ some ""
  | .manual, payload | .importModule, payload => payload ≠ none ∧ payload ≠ some ""

instance (directive : Directive) (payload : Option String) :
    Decidable (directive.Takes payload) := by
  cases directive <;> unfold Directive.Takes <;> infer_instance

/-- Every directive is in the vocabulary. -/
theorem Directive.mem_all (directive : Directive) : directive ∈ Directive.all := by
  cases directive <;> decide

/-- A tag outside the vocabulary is no directive's. -/
theorem Directive.ofText?_eq_none_iff {tag : String} :
    ofText? tag = none ↔ ∀ directive : Directive, tag ≠ directive.text := by
  rw [ofText?, List.find?_eq_none]
  constructor
  · intro h directive htag
    exact h directive directive.mem_all (by simp [htag])
  · intro h directive _ htag
    exact h directive (by simpa using htag : directive.text = tag).symm

/-- The payload that an annotation holds. -/
def Annotation.payload? : Annotation → Option String
  | visible | hidden | encourage => none
  | exposeHere module => module
  | manual code => some code
  | importModule module => some module

/-- Directive and payload make up the annotation. -/
theorem Annotation.withPayload_payload? (item : Annotation) :
    item.directive.withPayload item.payload? = item := by
  cases item <;> rfl

/-- A payload that the directive takes is held as it is. -/
theorem Directive.payload?_withPayload {directive : Directive} {payload : Option String}
    (h : directive.Takes payload) : (directive.withPayload payload).payload? = payload := by
  cases directive with
  | visible | hidden | encourage => exact h.symm
  | exposeHere => rfl
  | manual | importModule =>
    obtain ⟨text, rfl⟩ := Option.ne_none_iff_exists'.1 h.1
    rfl

namespace Mark

/-! ### One mark -/

/-- **A mark is in order at a site**: its tag is that of a directive that may stand there and that
takes its payload. -/
def Acceptable (site : Site) (mark : Mark) : Prop :=
  ∃ directive : Directive, mark.tag = directive.text ∧ directive.allowedOn site = true ∧
    directive.Takes mark.trimmed

instance (site : Site) (mark : Mark) : Decidable (mark.Acceptable site) :=
  decidable_of_iff (∃ directive ∈ Directive.all, mark.tag = directive.text ∧
    directive.allowedOn site = true ∧ directive.Takes mark.trimmed)
    ⟨fun ⟨directive, _, h⟩ ↦ ⟨directive, h⟩, fun ⟨directive, h⟩ ↦ ⟨directive, directive.mem_all, h⟩⟩

/-- **What an annotation says is what the mark says**: the directive of its tag, with its trimmed
payload. -/
structure Becomes (mark : Mark) (item : Annotation) : Prop where
  directive : mark.tag = item.directive.text
  payload : item.payload? = mark.trimmed

/-- **What is wrong with a mark**, as it is found first. -/
inductive Refused (owner : String) (site : Site) (mark : Mark) : Problem → Prop
  /-- The tag is none of the vocabulary. -/
  | unknown (tag : ∀ directive : Directive, mark.tag ≠ directive.text) :
      Refused owner site mark (.unknownTag owner mark.tag)
  /-- The directive may not stand here. -/
  | misplaced {directive : Directive} (tag : mark.tag = directive.text)
      (banned : directive.allowedOn site = false) :
      Refused owner site mark
        (.malformedMark owner directive.text ("cannot be attached to a " ++ site.text))
  /-- There is nothing in the payload. -/
  | empty {directive : Directive} (tag : mark.tag = directive.text)
      (allowed : directive.allowedOn site = true) (payload : mark.trimmed = some "") :
      Refused owner site mark (.malformedMark owner directive.text "payload is empty")
  /-- The directive takes no payload. -/
  | unwanted {directive : Directive} {text : String} (tag : mark.tag = directive.text)
      (allowed : directive.allowedOn site = true) (payload : mark.trimmed = some text)
      (filled : text ≠ "") (rule : directive = .visible ∨ directive = .hidden ∨
        directive = .encourage) :
      Refused owner site mark
        (.malformedMark owner directive.text ("takes no payload, got '" ++ text ++ "'"))
  /-- The directive needs a payload. -/
  | wanting {directive : Directive} (tag : mark.tag = directive.text)
      (allowed : directive.allowedOn site = true) (payload : mark.trimmed = none)
      (rule : directive = .manual ∨ directive = .importModule) :
      Refused owner site mark (.malformedMark owner directive.text "requires a payload")

variable {owner : String} {site : Site} {mark : Mark}

/-- **A mark in order reads**, as the directive of its tag with the trimmed payload. -/
theorem read_of_takes {directive : Directive} (tag : mark.tag = directive.text)
    (allowed : directive.allowedOn site = true) (takes : directive.Takes mark.trimmed) :
    mark.read owner site = .ok (directive.withPayload mark.trimmed) := by
  have hfilled : mark.payload.map Text.trim ≠ some "" := by
    intro hempty
    rw [trimmed, hempty] at takes
    cases directive <;> simp [Directive.Takes] at takes
  rw [read, tag, Directive.ofText?_text]
  simp only [allowed, if_true, if_neg hfilled]
  rw [trimmed] at takes ⊢
  cases directive with
  | visible | hidden | encourage => rw [show mark.payload.map Text.trim = none from takes]; rfl
  | exposeHere => rfl
  | manual | importModule =>
    obtain ⟨text, htext⟩ := Option.ne_none_iff_exists'.1 takes.1
    rw [htext]
    rfl

/-- **A mark with something wrong with it is refused** for that. -/
theorem Refused.read_eq {problem : Problem} (h : mark.Refused owner site problem) :
    mark.read owner site = .error problem := by
  cases h with
  | unknown tag => rw [read, Directive.ofText?_eq_none_iff.2 tag]
  | misplaced tag banned =>
    rw [read, tag, Directive.ofText?_text]
    simp only [banned, Bool.false_eq_true, if_false]
  | empty tag allowed payload =>
    rw [trimmed] at payload
    rw [read, tag, Directive.ofText?_text]
    simp only [allowed, payload, if_true]
  | @unwanted directive text tag allowed payload filled rule =>
    have hfilled : some text ≠ some "" := fun h ↦ filled (Option.some.inj h)
    rw [trimmed] at payload
    rw [read, tag, Directive.ofText?_text]
    simp only [allowed, payload, if_true, if_neg hfilled]
    rcases rule with rfl | rfl | rfl <;> rfl
  | @wanting directive tag allowed payload rule =>
    rw [trimmed] at payload
    rw [read, tag, Directive.ofText?_text]
    simp only [allowed, payload, if_true, reduceCtorEq, if_false]
    rcases rule with rfl | rfl <;> rfl

/-- **Where a mark is not in order there is something wrong with it.** The cases are the checks, in
their order. -/
theorem exists_refused (owner : String) (h : ¬ mark.Acceptable site) :
    ∃ problem, mark.Refused owner site problem := by
  rcases hdirective : Directive.ofText? mark.tag with - | directive
  · exact ⟨_, .unknown (Directive.ofText?_eq_none_iff.1 hdirective)⟩
  have htag := (Directive.text_of_ofText? hdirective).symm
  rcases hallowed : directive.allowedOn site with - | -
  · exact ⟨_, .misplaced htag hallowed⟩
  have hrule : ¬ directive.Takes mark.trimmed := fun htakes ↦ h ⟨directive, htag, hallowed, htakes⟩
  rcases hpayload : mark.trimmed with - | text
  · -- Only a directive that needs a payload does not take none.
    refine ⟨_, .wanting htag hallowed hpayload ?_⟩
    rw [hpayload] at hrule
    cases directive <;> simp_all [Directive.Takes]
  · by_cases hfilled : text = ""
    · exact ⟨_, .empty htag hallowed (hfilled ▸ hpayload)⟩
    · -- Only a directive that takes no payload does not take one that is not empty.
      refine ⟨_, .unwanted htag hallowed hpayload hfilled ?_⟩
      rw [hpayload] at hrule
      cases directive <;> simp_all [Directive.Takes]

/-- **A mark reads exactly if it is in order**, and then as the annotation that says the same. -/
theorem read_eq_ok_iff {item : Annotation} :
    mark.read owner site = .ok item ↔ mark.Acceptable site ∧ mark.Becomes item := by
  by_cases hacceptable : mark.Acceptable site
  · obtain ⟨directive, htag, hallowed, htakes⟩ := id hacceptable
    rw [read_of_takes htag hallowed htakes, Except.ok.injEq]
    constructor
    · rintro rfl
      exact ⟨hacceptable, by rwa [Directive.directive_withPayload],
        Directive.payload?_withPayload htakes⟩
    · rintro ⟨-, hbecomes⟩
      have hdirective : directive = item.directive :=
        Directive.text_injective (htag.symm.trans hbecomes.directive)
      rw [hdirective, ← hbecomes.payload, Annotation.withPayload_payload?]
  · obtain ⟨problem, hrefused⟩ := exists_refused owner hacceptable
    rw [hrefused.read_eq]
    exact iff_of_false (by simp) fun h ↦ hacceptable h.1

/-- A mark is in order exactly if it reads. -/
theorem exists_read_eq_ok_iff (owner : String) :
    (∃ item, mark.read owner site = .ok item) ↔ mark.Acceptable site := by
  constructor
  · rintro ⟨item, h⟩
    exact (read_eq_ok_iff.1 h).1
  · rintro ⟨directive, htag, hallowed, htakes⟩
    exact ⟨_, read_of_takes htag hallowed htakes⟩

/-- **A mark is refused exactly for what is wrong with it.** -/
theorem read_eq_error_iff {problem : Problem} :
    mark.read owner site = .error problem ↔ mark.Refused owner site problem := by
  refine ⟨fun h ↦ ?_, Refused.read_eq⟩
  have hnot : ¬ mark.Acceptable site := by
    rw [← exists_read_eq_ok_iff owner, h]
    rintro ⟨item, hitem⟩
    cases hitem
  obtain ⟨found, hfound⟩ := exists_refused owner hnot
  obtain rfl : problem = found := Except.error.inj (h.symm.trans hfound.read_eq)
  exact hfound

end Mark

/-! ### Lists of marks -/

namespace Annotations

/-- The problems in what reading has come to. -/
def refusals : Except (List Problem) Annotations → List Problem
  | .ok _ => []
  | .error found => found

/-- **What two lists come to, one behind the other**: the annotations of both if both read, and
otherwise the problems of both. -/
def joined :
    (first second : Except (List Problem) Annotations) → Except (List Problem) Annotations
  | .ok first, .ok second => .ok ⟨first.items ++ second.items⟩
  | first, second => .error (refusals first ++ refusals second)

variable {owner : String} {site : Site}

/-- The problems of a list are those that reading it comes to. -/
theorem refusals_read (marks : List Mark) :
    refusals (read owner site marks) = problems owner site marks := by
  rcases hread : read owner site marks with found | annotations
  · exact of_read_eq_error hread
  · unfold read at hread
    split at hread
    · rename_i hnone
      exact hnone.symm
    · cases hread

/-- A list reads as the annotations of its marks, one for each. -/
theorem read_eq_ok_iff_forall₂ {marks : List Mark} {annotations : Annotations} :
    read owner site marks = .ok annotations ↔
      List.Forall₂ (fun mark item ↦ mark.read owner site = .ok item) marks annotations.items := by
  induction marks generalizing annotations with
  | nil =>
    obtain ⟨items⟩ := annotations
    show Except.ok _ = Except.ok _ ↔ _
    simp [readable, eq_comm]
  | cons mark marks ih =>
    rw [read_cons_eq_ok]
    constructor
    · rintro ⟨item, items, hitem, hitems, rfl⟩
      exact .cons hitem (ih.1 hitems)
    · obtain ⟨items⟩ := annotations
      rintro (_ | ⟨hitem, hitems⟩)
      exact ⟨_, _, hitem, ih.2 hitems, rfl⟩

/-- **There is one problem for each mark that is not in order**, in the order of the marks. -/
theorem problems_eq_iff_forall₂ {marks : List Mark} {found : List Problem} :
    problems owner site marks = found ↔
      List.Forall₂ (fun mark problem ↦ mark.Refused owner site problem)
        (marks.filter fun mark ↦ ¬ mark.Acceptable site) found := by
  induction marks generalizing found with
  | nil => simp [problems, eq_comm]
  | cons mark marks ih =>
    rw [problems, List.filterMap_cons]
    rcases hread : mark.read owner site with problem | item
    · have hnot : ¬ mark.Acceptable site := by
        rw [← Mark.exists_read_eq_ok_iff owner, hread]
        simp
      rw [List.filter_cons_of_pos (by simpa using hnot)]
      constructor
      · rintro rfl
        exact .cons (Mark.read_eq_error_iff.1 hread) (ih.1 rfl)
      · rintro (_ | ⟨hproblem, hrest⟩)
        obtain rfl := Except.error.inj (hread.symm.trans hproblem.read_eq)
        exact congrArg _ (ih.2 hrest)
    · have hacceptable : mark.Acceptable site := (Mark.read_eq_ok_iff.1 hread).1
      rw [List.filter_cons_of_neg (by simpa using hacceptable)]
      exact ih

/-- A list does not read exactly if there is a problem to report, and then it reports them all. -/
theorem read_eq_error_iff {marks : List Mark} {found : List Problem} :
    read owner site marks = .error found ↔ found ≠ [] ∧ problems owner site marks = found := by
  constructor
  · intro h
    exact ⟨ne_nil_of_read_eq_error h, (of_read_eq_error h).symm⟩
  · rintro ⟨hne, rfl⟩
    rw [read]
    split
    · rename_i hnone
      exact absurd hnone hne
    · rfl

/-- **One list behind another comes to what the two come to.** -/
theorem read_append (marks others : List Mark) :
    read owner site (marks ++ others) =
      joined (read owner site marks) (read owner site others) := by
  have happend : problems owner site (marks ++ others) =
      refusals (read owner site marks) ++ refusals (read owner site others) := by
    rw [refusals_read, refusals_read]
    exact List.filterMap_append
  rcases hmarks : read owner site marks with found | first
  · rw [hmarks] at happend
    have hne := ne_nil_of_read_eq_error hmarks
    exact read_eq_error_iff.2 ⟨by simp [refusals, hne], happend⟩
  · rcases hothers : read owner site others with found | second
    · rw [hmarks, hothers] at happend
      have hne := ne_nil_of_read_eq_error hothers
      exact read_eq_error_iff.2 ⟨by simp [refusals, hne], happend⟩
    · exact read_eq_ok_iff_forall₂.2 (List.rel_append
        (read_eq_ok_iff_forall₂.1 hmarks) (read_eq_ok_iff_forall₂.1 hothers))

/-- **What a list of marks comes to.** It reads exactly if every mark is in order, and then there is
one annotation for each mark, in order, with the directive of the tag and the trimmed payload.
Otherwise there is one problem for each mark that is not in order, in order and none for the others,
and it is what is found first of what is wrong with the mark. A list that continues another adds its
annotations to those of the other, or its problems. -/
theorem read_exact (owner : String) (site : Site) (marks : List Mark) :
    ((∃ annotations, read owner site marks = .ok annotations) ↔
      ∀ mark ∈ marks, mark.Acceptable site) ∧
    (∀ annotations, read owner site marks = .ok annotations ↔
      (∀ mark ∈ marks, mark.Acceptable site) ∧
        List.Forall₂ Mark.Becomes marks annotations.items) ∧
    (∀ found, read owner site marks = .error found ↔
      found ≠ [] ∧ List.Forall₂ (fun mark problem ↦ mark.Refused owner site problem)
        (marks.filter fun mark ↦ ¬ mark.Acceptable site) found) ∧
    ∀ others, read owner site (marks ++ others) =
      joined (read owner site marks) (read owner site others) := by
  refine ⟨?_, fun annotations ↦ ?_, fun found ↦ ?_, read_append marks⟩
  · rw [exists_read_eq_ok]
    exact forall₂_congr fun mark _ ↦ Mark.exists_read_eq_ok_iff owner
  · rw [read_eq_ok_iff_forall₂, ← List.forall₂_and_left]
    exact iff_of_eq (congrArg (List.Forall₂ · marks annotations.items)
      (funext₂ fun mark item ↦ propext Mark.read_eq_ok_iff))
  · rw [read_eq_error_iff, problems_eq_iff_forall₂]

/-- Of two marks that are refused the one is misplaced before its payload is looked at, and the
other one's payload is blank before it is unwanted. -/
example : read "lib::Point" (.declaration .record)
    [⟨"encourage", some " "⟩, ⟨"manual", some " code "⟩, ⟨"visible", some " "⟩] =
      .error [.malformedMark "lib::Point" "encourage" "cannot be attached to a struct",
        .malformedMark "lib::Point" "visible" "payload is empty"] := rfl

end Annotations
end Exposure
