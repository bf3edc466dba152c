import Exposure.Import.Call
import Exposure.Proofs.FirstOccurrences

/-!
# The scan for import calls

`Import.calledModules` reads a text once, from the left, and gives up a call as soon as a character
does not fit. Here the calls of a text are told from the text alone. `Spells` says which texts are a
call, `CallAt` between which positions a call stands, and `Scan` which names are met in taking the
earliest call from a position on, then the earliest from its end on, and so forth.

At a position there is one call at most (`CallAt.unique`), so a text has one scan (`Scan.unique`),
and reading the text from the left finds it (`scan_calls`). Calls that are written one after the
other are met again if no separator holds the word that a call starts with or runs into the next
call (`scan_interleave`).
-/

namespace Exposure.Import

/-! ### Calls -/

/-- The word that a call starts with. -/
def word : List Char := ['i', 'm', 'p', 'o', 'r', 't']

theorem isWord_of_mem_word {c : Char} (hc : c ∈ word) : Text.isWord c = true := by
  have hletters : word.all Text.isWord = true := by decide
  exact List.all_eq_true.1 hletters c hc

/-- **A text is an import call** of a name, which is not empty and holds no quote. Blanks may stand
on either side of the opening parenthesis and before the closing one. -/
inductive Spells (name : List Char) : List Char → Prop
  | call {before within behind : List Char} (hbefore : ∀ c ∈ before, Text.isBlank c)
      (hwithin : ∀ c ∈ within, Text.isBlank c) (hbehind : ∀ c ∈ behind, Text.isBlank c)
      (hname : name ≠ []) (hquote : '"' ∉ name) :
      Spells name
        (word ++ (before ++ '(' :: (within ++ '"' :: (name ++ '"' :: (behind ++ [')'])))))

/-- **From `start` to `stop` a text has a call of a name**, and no word character before it. -/
def CallAt (text : List Char) (start stop : Nat) (name : List Char) : Prop :=
  ∃ front call behind, text = front ++ (call ++ behind) ∧ front.length = start ∧
    (front ++ call).length = stop ∧ Spells name call ∧ front.getLast?.any Text.isWord = false

/-- **The names met from a position on**: that of the earliest call from there, and those met from
its end on. -/
inductive Scan (text : List Char) : Nat → List (List Char) → Prop
  | done {start : Nat} (hnone : ∀ p stop name, start ≤ p → ¬ CallAt text p stop name) :
      Scan text start []
  | next {start p stop : Nat} {name : List Char} {names : List (List Char)} (hstart : start ≤ p)
      (hcall : CallAt text p stop name)
      (hfirst : ∀ q stop name, start ≤ q → q < p → ¬ CallAt text q stop name)
      (hrest : Scan text stop names) : Scan text start (name :: names)

/-! ### Reading a call -/

theorem expect_eq_some {expected : Char} {chars rest : List Char} :
    expect expected chars = some rest ↔ chars = expected :: rest := by
  cases chars with
  | nil => simp [expect]
  | cons c chars => simp [expect]

theorem expectAll_eq_some {expected chars rest : List Char} :
    expectAll expected chars = some rest ↔ chars = expected ++ rest := by
  induction expected generalizing chars with
  | nil => simp [expectAll]
  | cons c expected ih => simp [expectAll, Option.bind_eq_some_iff, expect_eq_some, ih]

/-- What is passed over ends where a character is met that would not be. -/
theorem expect_dropWhile_eq_some {p : Char → Bool} {expected : Char} (hp : p expected = false)
    {chars rest : List Char} :
    expect expected (chars.dropWhile p) = some rest ↔
      ∃ front, (∀ c ∈ front, p c) ∧ chars = front ++ expected :: rest := by
  rw [expect_eq_some]
  constructor
  · intro h
    refine ⟨chars.takeWhile p, List.all_eq_true.1 List.all_takeWhile, ?_⟩
    rw [← h, List.takeWhile_append_dropWhile]
  · rintro ⟨front, hfront, rfl⟩
    rw [List.dropWhile_append_of_pos hfront, List.dropWhile_cons_of_neg (by simp [hp])]

/-- What is read up to a quote is what stands before the first one. -/
theorem takeWhile_eq_and_expect_eq {chars name rest : List Char} :
    chars.takeWhile (· ≠ '"') = name ∧ expect '"' (chars.dropWhile (· ≠ '"')) = some rest ↔
      '"' ∉ name ∧ chars = name ++ '"' :: rest := by
  rw [expect_eq_some]
  constructor
  · rintro ⟨rfl, hrest⟩
    refine ⟨fun hmem ↦ ?_, by rw [← hrest, List.takeWhile_append_dropWhile]⟩
    simpa using List.all_eq_true.1 List.all_takeWhile _ hmem
  · rintro ⟨hquote, rfl⟩
    have hkept : ∀ c ∈ name, (c ≠ '"' : Bool) = true := fun c hc ↦
      decide_eq_true fun h ↦ hquote (h ▸ hc)
    rw [List.takeWhile_append_of_pos hkept, List.dropWhile_append_of_pos hkept,
      List.takeWhile_cons_of_neg (by simp), List.dropWhile_cons_of_neg (by simp), List.append_nil]
    exact ⟨rfl, rfl⟩

/-- **What is read as a call is one**, and every call is read. -/
theorem call?_eq_some {chars name behind : List Char} :
    call? chars = some (name, behind) ↔ ∃ call, Spells name call ∧ chars = call ++ behind := by
  have hopening : Text.isBlank '(' = false := by decide
  have hquote : Text.isBlank '"' = false := by decide
  have hclosing : Text.isBlank ')' = false := by decide
  rw [call?]
  simp only [Option.bind_eq_bind, Option.bind_eq_some_iff, expectAll_eq_some, skipBlanks]
  constructor
  · -- Each sign is expected behind blanks, so reading splits the text at it.
    rintro ⟨_, rfl, _, hopened, quoted, hquoted, h⟩
    obtain ⟨before, hbefore, rfl⟩ := (expect_dropWhile_eq_some hopening).1 hopened
    obtain ⟨within, hwithin, rfl⟩ := (expect_dropWhile_eq_some hquote).1 hquoted
    split at h
    · cases h
    · rename_i hname
      obtain ⟨_, hunquoted, h⟩ := Option.bind_eq_some_iff.1 h
      obtain ⟨_, hclosed, h⟩ := Option.bind_eq_some_iff.1 h
      cases h
      obtain ⟨rest, hrest, rfl⟩ := (expect_dropWhile_eq_some hclosing).1 hclosed
      obtain ⟨hfree, hsplit⟩ := takeWhile_eq_and_expect_eq.1 ⟨rfl, hunquoted⟩
      refine ⟨_, .call hbefore hwithin hrest (mt List.isEmpty_iff.2 hname) hfree, ?_⟩
      conv_lhs => rw [hsplit]
      simp [word]
  · rintro ⟨_, @⟨before, within, rest, hbefore, hwithin, hrest, hname, hfree⟩, rfl⟩
    obtain ⟨hrun, hunquoted⟩ := takeWhile_eq_and_expect_eq.2
      ⟨hfree, (rfl : name ++ '"' :: (rest ++ ')' :: behind) = _)⟩
    refine ⟨before ++ '(' :: (within ++ '"' :: (name ++ '"' :: (rest ++ ')' :: behind))),
      by simp [word], _, (expect_dropWhile_eq_some hopening).2 ⟨before, hbefore, rfl⟩, _,
      (expect_dropWhile_eq_some hquote).2 ⟨within, hwithin, rfl⟩, ?_⟩
    rw [hrun, if_neg (mt List.isEmpty_iff.1 hname), hunquoted, Option.bind_some,
      Option.bind_eq_some_iff]
    exact ⟨behind, (expect_dropWhile_eq_some hclosing).2 ⟨rest, hrest, rfl⟩, rfl⟩

/-! ### Positions -/

/-- A call ends with the closing parenthesis. -/
theorem Spells.exists_eq_concat {name call : List Char} (h : Spells name call) :
    ∃ chars, call = chars ++ [')'] := by
  obtain @⟨before, within, behind, -, -, -, -, -⟩ := h
  exact ⟨word ++ (before ++ '(' :: (within ++ '"' :: (name ++ '"' :: behind))), by simp⟩

theorem Spells.length_pos {name call : List Char} (h : Spells name call) : 0 < call.length := by
  obtain ⟨chars, rfl⟩ := h.exists_eq_concat
  rw [List.length_append]
  exact Nat.succ_pos _

/-- Behind a call no word goes on. -/
theorem Spells.getLast?_any {name call : List Char} (h : Spells name call) (front : List Char) :
    (front ++ call).getLast?.any Text.isWord = false := by
  obtain ⟨chars, rfl⟩ := h.exists_eq_concat
  rw [← List.append_assoc, List.getLast?_concat]
  decide

variable {text : List Char} {start stop : Nat} {name : List Char}

/-- **What stands at a position** is told from what is in front of it and what is read there. -/
theorem callAt_length_iff {front chars : List Char} :
    CallAt (front ++ chars) front.length stop name ↔
      front.getLast?.any Text.isWord = false ∧
        ∃ call behind, chars = call ++ behind ∧ (front ++ call).length = stop ∧
          Spells name call := by
  constructor
  · rintro ⟨front', call, behind, htext, hstart, hstop, hcall, hfront⟩
    obtain ⟨rfl, rfl⟩ := List.append_inj htext hstart.symm
    exact ⟨hfront, call, behind, rfl, hstop, hcall⟩
  · rintro ⟨hfront, call, behind, rfl, hstop, hcall⟩
    exact ⟨front, call, behind, rfl, rfl, hstop, hcall, hfront⟩

/-- **At a position there is one call at most**, of one name and with one end. -/
theorem CallAt.unique {stop' : Nat} {name' : List Char} (h : CallAt text start stop name)
    (h' : CallAt text start stop' name') : stop = stop' ∧ name = name' := by
  obtain ⟨front, call, behind, rfl, rfl, rfl, hcall, -⟩ := h
  obtain ⟨-, call', behind', hsplit, rfl, hcall'⟩ := callAt_length_iff.1 h'
  have hread : call? (call ++ behind) = some (name, behind) := call?_eq_some.2 ⟨call, hcall, rfl⟩
  rw [call?_eq_some.2 ⟨call', hcall', hsplit⟩] at hread
  cases hread
  obtain rfl := List.append_cancel_right hsplit
  exact ⟨rfl, rfl⟩

/-- A call starts before the end of the text. -/
theorem CallAt.lt_length (h : CallAt text start stop name) : start < text.length := by
  obtain ⟨front, call, behind, rfl, rfl, -, hcall, -⟩ := h
  have hpos := hcall.length_pos
  rw [List.length_append, List.length_append]
  omega

/-! ### Scans -/

/-- Where no call stands, a scan may go on from the next position. -/
theorem Scan.of_succ {names : List (List Char)}
    (hnone : ∀ stop name, ¬ CallAt text start stop name) (h : Scan text (start + 1) names) :
    Scan text start names := by
  have hlt {p stop : Nat} {name : List Char} (hp : start ≤ p) (hcall : CallAt text p stop name) :
      start + 1 ≤ p := by
    refine Nat.lt_of_le_of_ne hp ?_
    rintro rfl
    exact hnone _ _ hcall
  cases h with
  | done hlater => exact .done fun p stop name hp hcall ↦ hlater p stop name (hlt hp hcall) hcall
  | next hstart hcall hfirst hrest =>
    refine .next (Nat.le_of_succ_le hstart) hcall (fun q stop name hq hbefore hother ↦ ?_) hrest
    exact hfirst q stop name (hlt hq hother) hbefore hother

/-- **A text has one scan** from each position. -/
theorem Scan.unique {names others : List (List Char)} (h : Scan text start names)
    (h' : Scan text start others) : names = others := by
  induction h generalizing others with
  | done hnone =>
    cases h' with
    | done => rfl
    | next hstart hcall => exact absurd hcall (hnone _ _ _ hstart)
  | @next start p stop name names hstart hcall hfirst hrest ih =>
    cases h' with
    | done hnone => exact absurd hcall (hnone _ _ _ hstart)
    | @next _ q _ _ _ hstart' hcall' hfirst' hrest' =>
      -- Neither call is earlier than the other.
      obtain rfl : p = q := by
        refine Nat.le_antisymm (Nat.le_of_not_lt fun hlt ↦ ?_) (Nat.le_of_not_lt fun hlt ↦ ?_)
        · exact hfirst _ _ _ hstart' hlt hcall'
        · exact hfirst' _ _ _ hstart hlt hcall
      obtain ⟨rfl, rfl⟩ := hcall.unique hcall'
      rw [ih hrest']

/-- What a scan meets are names. -/
theorem Scan.name_of_mem {names : List (List Char)} (h : Scan text start names) :
    ∀ name ∈ names, name ≠ [] ∧ '"' ∉ name := by
  induction h with
  | done => exact fun name hname ↦ absurd hname List.not_mem_nil
  | next _ hcall _ _ ih =>
    obtain ⟨-, -, -, -, -, -, ⟨-, -, -, hname, hquote⟩, -⟩ := hcall
    exact List.forall_mem_cons.2 ⟨⟨hname, hquote⟩, ih⟩

/-- At the end of a text nothing is met any more. -/
theorem scan_length (text : List Char) : Scan text text.length [] :=
  .done fun _ _ _ hstart hcall ↦ Nat.lt_irrefl _ (Nat.lt_of_le_of_lt hstart hcall.lt_length)

/-- **Reading a text from the left scans it.** -/
theorem scan_calls {steps : Nat} (front chars : List Char) (hsteps : chars.length ≤ steps) :
    Scan (front ++ chars) front.length (calls steps (front.getLast?.any Text.isWord) chars) := by
  induction steps generalizing front chars with
  | zero =>
    obtain rfl := List.eq_nil_of_length_eq_zero (Nat.le_zero.1 hsteps)
    rw [List.append_nil]
    exact scan_length front
  | succ steps ih =>
    rcases chars with - | ⟨c, rest⟩
    · rw [List.append_nil]
      exact scan_length front
    · rw [calls]
      split
      · -- A call stands here, and what is read next is behind it.
        rename_i name behind hread
        obtain ⟨hword, hread⟩ := Option.ite_none_left_eq_some.1 hread
        obtain ⟨call, hcall, hsplit⟩ := call?_eq_some.1 hread
        have hpos := hcall.length_pos
        have hlength := congrArg List.length hsplit
        rw [List.length_append] at hlength
        have hrest := ih (front ++ call) behind (by omega)
        rw [hcall.getLast?_any, List.append_assoc] at hrest
        rw [hsplit]
        refine .next (Nat.le_refl _) (callAt_length_iff.2
          ⟨Bool.eq_false_iff.2 hword, call, behind, rfl, rfl, hcall⟩) ?_ hrest
        exact fun q _ _ hq hlt ↦ absurd hlt (Nat.not_lt_of_le hq)
      · -- No call stands here, and what is read next is one character further on.
        rename_i hread
        have hrest := ih (front ++ [c]) rest (Nat.le_of_succ_le_succ hsteps)
        rw [List.getLast?_concat, Option.any_some, List.append_assoc, List.length_append] at hrest
        refine Scan.of_succ (fun stop name hcall ↦ ?_) hrest
        obtain ⟨hword, call, behind, hsplit, -, hcall⟩ := callAt_length_iff.1 hcall
        rw [if_neg (by simp [hword]), call?_eq_some.2 ⟨call, hcall, hsplit⟩] at hread
        cases hread

/-! ### Calls one after the other -/

/-- The call of a name, written without blanks. -/
def callOf (name : String) : String := "import(\"" ++ name ++ "\")"

/-- Calls of names, each behind its separator, and what comes last. -/
def interleave : List (String × String) → String → String
  | [], last => last
  | (separator, name) :: rest, last => separator ++ (callOf name ++ interleave rest last)

/-- **What may separate calls**: it does not hold the word that calls start with, and no word runs
from it into the next call. -/
structure Separates (separator : String) : Prop where
  free : ¬ word <:+: separator.toList
  ends : separator.toList.getLast?.any Text.isWord = false

theorem spells_callOf {name : String} (hname : name ≠ "") (hquote : '"' ∉ name.toList) :
    Spells name.toList (callOf name).toList := by
  have hspelled : (callOf name).toList =
      word ++ ([] ++ '(' :: ([] ++ '"' :: (name.toList ++ '"' :: ([] ++ [')'])))) := by
    simp [callOf, word]
  rw [hspelled]
  refine .call ?_ ?_ ?_ (mt String.toList_eq_nil_iff.1 hname) hquote
  all_goals exact fun c hc ↦ absurd hc List.not_mem_nil

/-- Where a call stands, the word is read. -/
theorem CallAt.word_isPrefix (h : CallAt text start stop name) : word <+: text.drop start := by
  obtain ⟨front, call, behind, rfl, rfl, -, ⟨-, -, -, -, -⟩, -⟩ := h
  rw [List.drop_left, List.append_assoc]
  exact List.prefix_append _ _

/-- **No call starts within a separator.** -/
theorem Separates.not_callAt {separator : String} (h : Separates separator)
    {front behind : List Char} (hstart : front.length ≤ start)
    (hlt : start < (front ++ separator.toList).length) :
    ¬ CallAt (front ++ (separator.toList ++ behind)) start stop name := by
  intro hcall
  rw [List.length_append] at hlt
  have hword := hcall.word_isPrefix
  rw [List.drop_append, List.drop_of_length_le hstart, List.nil_append,
    List.drop_append_of_le_length (by omega)] at hword
  rcases List.prefix_or_prefix_of_prefix hword (List.prefix_append _ _) with hinside | hacross
  · exact h.free (hinside.isInfix.trans (List.drop_suffix _ _).isInfix)
  · -- The last character of the separator would be one of the word.
    have hlast : (separator.toList.drop (start - front.length)).getLast? =
        separator.toList.getLast? := by
      rw [List.getLast?_drop, if_neg (by omega)]
    rcases hend : separator.toList.getLast? with - | c
    · rw [List.getLast?_eq_none_iff.1 hend, List.length_nil] at hlt
      omega
    · have hletter : c ∈ word := hacross.subset (List.mem_of_getLast? (hlast.trans hend))
      have hends := h.ends
      rw [hend, Option.any_some, isWord_of_mem_word hletter] at hends
      cases hends

/-- **Calls that are kept apart are met one by one.** -/
theorem scan_interleave {pieces : List (String × String)} {last : String}
    (hpieces : ∀ piece ∈ pieces, Separates piece.1 ∧ piece.2 ≠ "" ∧ '"' ∉ piece.2.toList)
    (hlast : ¬ word <:+: last.toList) (front : List Char)
    (hfront : front.getLast?.any Text.isWord = false) :
    Scan (front ++ (interleave pieces last).toList) front.length
      (pieces.map (·.2.toList)) := by
  induction pieces generalizing front with
  | nil =>
    -- Behind the last call there is only the last separator, which has no word to begin a call
    -- with.
    refine .done fun p stop name hstart hcall ↦ hlast ?_
    have hword := hcall.word_isPrefix
    rw [interleave, List.drop_append, List.drop_of_length_le hstart, List.nil_append] at hword
    exact hword.isInfix.trans (List.drop_suffix _ _).isInfix
  | cons piece rest ih =>
    obtain ⟨separator, name⟩ := piece
    obtain ⟨⟨hseparator, hname, hquote⟩, hrest⟩ := List.forall_mem_cons.1 hpieces
    have hcall := spells_callOf hname hquote
    -- The call is read as one only if no letter of a word stands right before it.
    have hends : (front ++ separator.toList).getLast?.any Text.isWord = false := by
      rw [List.getLast?_append]
      rcases hlast : separator.toList.getLast? with - | c
      · exact hfront
      · rw [Option.some_or, ← hlast]
        exact hseparator.ends
    have hnext := ih hrest (front ++ separator.toList ++ (callOf name).toList)
      (hcall.getLast?_any _)
    rw [interleave, String.toList_append, String.toList_append]
    rw [List.append_assoc, List.append_assoc] at hnext
    have hhere : CallAt (front ++ (separator.toList ++ ((callOf name).toList ++
        (interleave rest last).toList))) (front ++ separator.toList).length
          (front ++ separator.toList ++ (callOf name).toList).length name.toList := by
      rw [← List.append_assoc]
      exact callAt_length_iff.2 ⟨hends, _, _, rfl, rfl, hcall⟩
    refine .next ?_ hhere (fun q stop name hstart hlt ↦ hseparator.not_callAt hstart hlt) hnext
    rw [List.length_append]
    exact Nat.le_add_right _ _

/-! ### The scan -/

/-- **The modules that a text calls for are those of its scan.** -/
theorem calledModules_eq {code : String} {names : List (List Char)}
    (h : Scan code.toList 0 names) :
    calledModules code = (names.map String.ofList).eraseDups := by
  have hread := scan_calls [] code.toList (Nat.le_refl _)
  rw [calledModules, h.unique hread]
  rfl

/-- **Hand-written code is scanned exactly.** At each position of a text there is one call at most,
with one name and one end. The text has one scan, and the modules that it calls for are the names in
it, each at its first occurrence. So no name occurs twice, none is empty and none holds a quote.
Names that are written as calls, one after the other and kept apart, are called for in that order,
but for repetitions. -/
theorem calledModules_exact :
    (∀ code : String,
      (∀ start stop stop' name name', CallAt code.toList start stop name →
        CallAt code.toList start stop' name' → stop = stop' ∧ name = name') ∧
      (∃ names, Scan code.toList 0 names ∧ (∀ others, Scan code.toList 0 others → others = names) ∧
        calledModules code = (names.map String.ofList).eraseDups) ∧
      (calledModules code).Nodup ∧
      ∀ name ∈ calledModules code, name ≠ "" ∧ '"' ∉ name.toList) ∧
    ∀ (pieces : List (String × String)) (last : String),
      (∀ piece ∈ pieces, Separates piece.1 ∧ piece.2 ≠ "" ∧ '"' ∉ piece.2.toList) →
      ¬ word <:+: last.toList →
      calledModules (interleave pieces last) = (pieces.map (·.2)).eraseDups := by
  refine ⟨fun code ↦ ?_, fun pieces last hpieces hlast ↦ ?_⟩
  · have hscan : Scan code.toList 0 (calls code.toList.length false code.toList) :=
      scan_calls [] code.toList (Nat.le_refl _)
    refine ⟨fun _ _ _ _ _ ↦ CallAt.unique, ⟨_, hscan, fun others h ↦ h.unique hscan, rfl⟩,
      nodup_eraseDups _, fun name hname ↦ ?_⟩
    obtain ⟨chars, hmem, rfl⟩ := List.mem_map.1 (List.mem_eraseDups.1 hname)
    obtain ⟨hne, hquote⟩ := hscan.name_of_mem chars hmem
    rw [String.toList_ofList]
    exact ⟨fun h ↦ hne (by simpa using congrArg String.toList h), hquote⟩
  · have hscan := scan_interleave hpieces hlast [] rfl
    rw [calledModules_eq hscan, List.map_map]
    simp [Function.comp_def]

/-- Neither a longer word, nor a call that breaks off, nor a name that starts like a call hides what
comes after it. -/
example : calledModules
    "reimport(\"a\") import(import (\n\"import(b\" ); import(\"c\")import(\"import(b\")" =
      ["import(b", "c"] := by rfl

end Exposure.Import
