import Mathlib.Data.List.Forall2
import Exposure.Toml.Reader

/-!
# Written documents are read back

What is written line by line is read line by line: a line **reads as** something if that is what its
characters say in front of whatever follows (`ReadsAs`), and a row of such lines reads as all of
them (`statements_written`).

The lines are keys with their values and headers (`readsAs_assignment`, `readsAs_header`), with
blank lines in between. Their values are flags, words and whole numbers (`ValueReadsAs`). A whole
number could also be the start of a date, a time or a float; that it is none is seen at the end of
the line, where a mark of one of these would have to stand (`moment?_digits`, `float_digits`).
-/

namespace Exposure.Toml

open Settings (Value)

/-! ### Layout -/

theorem skipSpace_cons {c : Char} (h : isSpace c = false) (rest : List Char) :
    skipSpace (c :: rest) = c :: rest :=
  List.dropWhile_cons_of_neg (by rw [h]; exact Bool.false_ne_true)

/-- A character that is no layout: neither a blank, nor the start of a comment or of a line end. -/
def Shows (c : Char) : Prop := isSpace c = false ∧ c ≠ '#' ∧ c ≠ '\n' ∧ c ≠ '\r'

instance (c : Char) : Decidable (Shows c) := inferInstanceAs (Decidable (_ ∧ _ ∧ _ ∧ _))

theorem skipComment_of_ne {c : Char} (h : c ≠ '#') (rest : List Char) :
    skipComment (c :: rest) = c :: rest := by
  unfold skipComment
  split
  · rename_i heq
    cases heq
    exact absurd rfl h
  · rfl

theorem skipLayout_of_shows {c : Char} (h : Shows c) (rest : List Char) :
    skipLayout (c :: rest) = c :: rest := by
  obtain ⟨hspace, hcomment, hline, hreturn⟩ := h
  have hnone : lineEnd? (c :: rest) = none := by
    unfold lineEnd?
    split
    · rename_i heq
      cases heq
      exact absurd rfl hline
    · rename_i heq
      cases heq
      exact absurd rfl hreturn
    · rfl
  rw [skipLayout, skipBlankLines, skipSpace_cons hspace, skipComment_of_ne hcomment, hnone]

/-- A line end is skipped with the layout behind it. -/
theorem skipLayout_newline (rest : List Char) : skipLayout ('\n' :: rest) = skipLayout rest := by
  rw [skipLayout, List.length_cons, skipBlankLines, skipSpace_cons (by decide),
    skipComment_of_ne (by decide)]
  rfl

/-- Behind a header or a value a line end is all that is needed. -/
theorem lineRest_newline (rest : List Char) : lineRest ('\n' :: rest) = some rest := by
  rw [lineRest, skipSpace_cons (by decide), skipComment_of_ne (by decide)]
  rfl

/-! ### Lines -/

/-- Characters say a line, in front of whatever follows. -/
def ReadsAs (chars : List Char) (said : Line) : Prop :=
  ∀ rest, ∃ shown, shown ≠ [] ∧ skipLayout (chars ++ rest) = shown ∧
    statement shown = some (said, rest)

/-- A blank line in front changes nothing. -/
theorem ReadsAs.newline {chars : List Char} {said : Line} (h : ReadsAs chars said) :
    ReadsAs ('\n' :: chars) said := fun rest ↦ by
  rw [List.cons_append, skipLayout_newline]
  exact h rest

theorem ReadsAs.ne_nil {chars : List Char} {said : Line} (h : ReadsAs chars said) : chars ≠ [] := by
  rintro rfl
  obtain ⟨shown, hshown, hlayout, -⟩ := h []
  exact hshown hlayout.symm

/-- **Lines that are written one by one are read one by one**, by induction on the lines. -/
theorem statements_written {texts : List (List Char)} {lines : List Line}
    (h : List.Forall₂ ReadsAs texts lines) {steps : Nat} (hsteps : texts.length < steps) :
    statements steps texts.flatten = some lines := by
  induction h generalizing steps with
  | nil =>
    obtain ⟨steps, rfl⟩ := Nat.exists_eq_succ_of_ne_zero (Nat.ne_zero_of_lt hsteps)
    rfl
  | @cons text line texts lines hfirst hrest ih =>
    obtain ⟨steps, rfl⟩ := Nat.exists_eq_succ_of_ne_zero (Nat.ne_zero_of_lt hsteps)
    obtain ⟨shown, hshown, hlayout, hread⟩ := hfirst texts.flatten
    rw [List.flatten_cons, statements, hlayout]
    split
    · exact absurd rfl hshown
    · rw [hread, Option.bind_some]
      dsimp only
      rw [ih (Nat.lt_of_succ_lt_succ hsteps), Option.map_some]

/-- A document takes at least as many characters as it has lines. -/
theorem length_le_length_flatten {texts : List (List Char)} {lines : List Line}
    (h : List.Forall₂ ReadsAs texts lines) : texts.length ≤ texts.flatten.length := by
  induction h with
  | nil => exact Nat.le_refl _
  | cons hfirst hrest ih =>
    have hpos := List.length_pos_of_ne_nil hfirst.ne_nil
    rw [List.flatten_cons, List.length_append, List.length_cons]
    omega

/-- **A document that is written line by line** is put together from what its lines say. -/
theorem read_written {texts : List (List Char)} {lines : List Line}
    (h : List.Forall₂ ReadsAs texts lines) {source : String}
    (hsource : skipMark source.toList = texts.flatten) :
    read source = (assemble [] (sections ⟨.document, []⟩ lines)).map entriesOf := by
  rw [read, hsource, statements_written h (Nat.lt_succ_of_le (length_le_length_flatten h)),
    Option.bind_some]

/-! ### Keys -/

/-- A key that needs no quotes. -/
def IsBareKey (name : List Char) : Prop := name ≠ [] ∧ name.all isBare

instance (name : List Char) : Decidable (IsBareKey name) :=
  inferInstanceAs (Decidable (_ ∧ _))

/-- A bare character is none of those that have a meaning where a key starts. -/
theorem ne_of_isBare {c : Char} (h : isBare c) {other : Char} (hother : isBare other = false) :
    c ≠ other := by
  rintro rfl
  rw [hother] at h
  cases h

theorem isSpace_of_isBare {c : Char} (h : isBare c) : isSpace c = false := by
  have hblank : c ≠ ' ' := ne_of_isBare h (by decide)
  have htab : c ≠ '\t' := ne_of_isBare h (by decide)
  simp [isSpace, hblank, htab]

theorem shows_of_isBare {c : Char} (h : isBare c) : Shows c :=
  ⟨isSpace_of_isBare h, ne_of_isBare h (by decide), ne_of_isBare h (by decide),
    ne_of_isBare h (by decide)⟩

/-- A bare key is read up to the first character that is not bare. -/
theorem keyPart_bare {name : List Char} (h : IsBareKey name) {stop : Char}
    (hstop : isBare stop = false) (rest : List Char) :
    keyPart (name ++ stop :: rest) = some (String.ofList name, stop :: rest) := by
  obtain ⟨hne, hall⟩ := h
  have hbare := List.all_eq_true.1 hall
  have htake : (name ++ stop :: rest).takeWhile isBare = name := by
    rw [List.takeWhile_append_of_pos hbare, List.takeWhile_cons_of_neg (by simp [hstop]),
      List.append_nil]
  obtain ⟨c, more, rfl⟩ := List.exists_cons_of_ne_nil hne
  have hc := hbare c List.mem_cons_self
  unfold keyPart
  split
  · rename_i heq
    cases heq
    exact absurd rfl (ne_of_isBare hc (by decide))
  · rename_i heq
    cases heq
    exact absurd rfl (ne_of_isBare hc (by decide))
  · rw [htake, if_neg (by simp), List.drop_left]

/-- A bare key is read as one part, with the blanks behind it. -/
theorem key_bare {name : List Char} (h : IsBareKey name) {stop : Char}
    (hstop : isBare stop = false) {rest behind : List Char} {next : Char}
    (hbehind : skipSpace (stop :: rest) = next :: behind) (hnext : next ≠ '.') :
    key (name ++ stop :: rest) = some (([], String.ofList name), next :: behind) := by
  obtain ⟨c, more, rfl⟩ := List.exists_cons_of_ne_nil h.1
  have hspace : skipSpace (c :: more ++ stop :: rest) = c :: more ++ stop :: rest :=
    skipSpace_cons (isSpace_of_isBare (List.all_eq_true.1 h.2 c List.mem_cons_self)) _
  rw [key, mostParts, keyParts, hspace, keyPart_bare h hstop, Option.bind_some]
  dsimp only
  rw [hbehind]
  split
  · rename_i heq
    cases heq
    exact absurd rfl hnext
  · rfl

/-! ### Values -/

/-- Characters say a value, up to the end of the line. -/
def ValueReadsAs (chars : List Char) (said : Value) : Prop :=
  ∀ rest, value mostNesting (skipSpace (chars ++ '\n' :: rest)) = some (said, '\n' :: rest)

/-- Flags are read back. -/
theorem valueReadsAs_flag (flag : Bool) :
    ValueReadsAs (if flag then "true" else "false").toList (.bool flag) := by
  cases flag <;> exact fun _ ↦ rfl

/-- Whether a character stands for itself between quotes. -/
def isPlain (c : Char) : Bool := isInline c && c ≠ '"' && c ≠ '\\'

theorem isPlain_iff {c : Char} : isPlain c ↔ isInline c ∧ c ≠ '"' ∧ c ≠ '\\' := by
  rw [isPlain, Bool.and_eq_true, Bool.and_eq_true, decide_eq_true_iff, decide_eq_true_iff,
    and_assoc]

/-- Plain characters are read one by one up to the closing quote. -/
theorem basicChars_plain {word : List Char} (h : word.all isPlain) (rest : List Char)
    {steps : Nat} (hsteps : word.length < steps) :
    basicChars steps (word ++ '"' :: rest) = some (word, rest) := by
  induction word generalizing steps with
  | nil =>
    obtain ⟨steps, rfl⟩ := Nat.exists_eq_succ_of_ne_zero (Nat.ne_zero_of_lt hsteps)
    rfl
  | cons c word ih =>
    obtain ⟨steps, rfl⟩ := Nat.exists_eq_succ_of_ne_zero (Nat.ne_zero_of_lt hsteps)
    rw [List.all_cons, Bool.and_eq_true] at h
    obtain ⟨hinline, hquote, hescape⟩ := isPlain_iff.1 h.1
    rw [List.cons_append, basicChars.eq_5 _ _ _ hquote hescape, if_pos hinline,
      ih h.2 (Nat.lt_of_succ_lt_succ hsteps)]
    rfl

/-- Words of plain characters are read back from between quotes. -/
theorem valueReadsAs_word {word : String} (h : word.toList.all isPlain) :
    ValueReadsAs ("\"" ++ word ++ "\"").toList (.text word) := by
  have hchars : ("\"" ++ word ++ "\"").toList = '"' :: (word.toList ++ ['"']) := by simp
  intro rest
  rw [hchars, List.cons_append, List.append_assoc, List.singleton_append,
    skipSpace_cons (by decide)]
  -- No word starts with a quote, and behind the empty one there are no three quotes.
  have hline : text ('"' :: (word.toList ++ '"' :: '\n' :: rest)) =
      line ('"' :: (word.toList ++ '"' :: '\n' :: rest)) := by
    unfold text
    split
    · rename_i heq
      rcases hword : word.toList with - | ⟨c, more⟩
      · rw [hword] at heq
        cases heq
      · rw [hword] at h heq
        simp only [List.cons_append, List.cons.injEq] at heq
        exact absurd heq.2.1 (isPlain_iff.1 (List.all_eq_true.1 h c List.mem_cons_self)).2.1
    · rename_i heq
      cases heq
    · rfl
  have hread : line ('"' :: (word.toList ++ '"' :: '\n' :: rest)) = some (word, '\n' :: rest) := by
    rw [line, basicChars_plain h _ (by rw [List.length_append]; omega), Option.map_some]
    dsimp only
    rw [String.ofList_toList]
  rw [value, hline, hread]
  rfl

/-! ### Whole numbers -/

/-- A decimal digit has its value. -/
theorem digitBelow?_of_isDigit {c : Char} (h : c.isDigit) :
    digitBelow? 10 c = some (c.toNat - 48) := by
  have hbounds : '0' ≤ c ∧ c ≤ '9' := by
    simpa [Char.isDigit, Char.le_def] using h
  have hvalue : c.toNat - 48 < 10 := by
    have := hbounds.2
    simp only [Char.le_def, UInt32.le_iff_toNat_le] at this
    show c.val.toNat - 48 < 10
    change c.val.toNat ≤ 57 at this
    omega
  rw [digitBelow?, hexDigit?, if_pos hbounds, Option.filter_some, if_pos (decide_eq_true hvalue)]

/-- A row of digits is read up to the end of the line. -/
theorem digits_written {chars : List Char} (hne : chars ≠ []) (h : ∀ c ∈ chars, c.isDigit)
    (rest : List Char) :
    digits 10 (chars ++ '\n' :: rest) =
      some (chars.map fun c ↦ c.toNat - 48, '\n' :: rest) := by
  induction chars with
  | nil => exact absurd rfl hne
  | cons c more ih =>
    obtain ⟨hc, hmore⟩ := List.forall_mem_cons.1 h
    cases more with
    | nil =>
      rw [List.singleton_append, digits, digitBelow?_of_isDigit hc, Option.bind_some]
      rfl
    | cons d more =>
      have hd := (List.forall_mem_cons.1 hmore).1
      have hscore : d ≠ '_' := by
        rintro rfl
        cases hd
      have hread := ih (List.cons_ne_nil _ _) hmore
      rw [List.cons_append] at hread
      rw [List.cons_append, List.cons_append, digits, digitBelow?_of_isDigit hc, Option.bind_some,
        if_neg hscore, digitBelow?_of_isDigit hd, Option.isSome_some, if_pos rfl, hread]
      rfl

/-- No number but zero is written with a zero in front. -/
theorem head?_toDigits_ne {number : Nat} (h : number ≠ 0) :
    (Nat.toDigits 10 number).head? ≠ some '0' := by
  induction number using Nat.strongRecOn with
  | ind number ih =>
    by_cases hsmall : number < 10
    · have hdigit : ∀ n < 10, n ≠ 0 → [Nat.digitChar n].head? ≠ some '0' := by decide
      rw [Nat.toDigits_of_lt_base hsmall]
      exact hdigit number hsmall h
    · have hpos : number / 10 ≠ 0 := by omega
      rw [Nat.toDigits_of_base_le (by decide) (Nat.le_of_not_lt hsmall),
        List.head?_append_of_ne_nil _ Nat.toDigits_ne_nil]
      exact ih (number / 10) (by omega) hpos

theorem isDigit_toDigits {number : Nat} : ∀ c ∈ Nat.toDigits 10 number, c.isDigit :=
  fun _ hc ↦ Nat.isDigit_of_mem_toDigits (by decide) (by decide) hc

/-- The digits of a number are taken as they were written. -/
theorem wholeDigits_toDigits (number : Nat) (rest : List Char) :
    wholeDigits (Nat.toDigits 10 number ++ '\n' :: rest) =
      some ((Nat.toDigits 10 number).map fun c ↦ c.toNat - 48, '\n' :: rest) := by
  by_cases hzero : number = 0
  · subst hzero
    rfl
  · unfold wholeDigits
    split
    · rename_i heq
      have hhead := congrArg List.head? heq
      rw [List.head?_append_of_ne_nil _ Nat.toDigits_ne_nil] at hhead
      exact absurd hhead (head?_toDigits_ne hzero)
    · exact digits_written Nat.toDigits_ne_nil isDigit_toDigits rest

/-- Digits stand for the number that was written. -/
theorem ofDigits_toDigits (number : Nat) :
    ofDigits 10 ((Nat.toDigits 10 number).map fun c ↦ c.toNat - 48) = number := by
  rw [ofDigits, List.foldl_map]
  conv_rhs => rw [← Nat.ofDigitChars_ten_toDigits (n := number), Nat.ofDigitChars_eq_foldl]
  simp only [Nat.mul_comm]
  rfl

section Digits

variable {chars : List Char} (h : ∀ c ∈ chars, c.isDigit) (rest : List Char)

include h

/-- Behind some digits of a row comes a digit or the end of the line. -/
theorem exactly_of_bounded {count least greatest found : Nat} {behind : List Char}
    (hfound : bounded count least greatest (chars ++ '\n' :: rest) = some (found, behind))
    {expected : Char} (hexpected : expected.isDigit = false) (hline : expected ≠ '\n') :
    exactly expected behind = none := by
  rw [bounded] at hfound
  dsimp only at hfound
  split at hfound
  · rename_i hdigits
    split at hfound
    · cases hfound
      -- The end of the line is no digit, so all that was taken is in front of it.
      have hcount : count ≤ chars.length := by
        by_contra hlong
        have hmem : '\n' ∈ (chars ++ '\n' :: rest).take count := by
          rw [List.take_append, List.take_of_length_le (by omega)]
          obtain ⟨more, hmore⟩ :=
            Nat.exists_eq_succ_of_ne_zero (n := count - chars.length) (by omega)
          rw [hmore, List.take_succ_cons]
          exact List.mem_append_right _ List.mem_cons_self
        exact absurd (List.all_eq_true.1 hdigits.2 _ hmem) (by decide)
      rw [List.drop_append_of_le_length hcount]
      rcases hdrop : chars.drop count with - | ⟨c, more⟩
      · exact if_neg hline.symm
      · have hc : c.isDigit := h c (List.mem_of_mem_drop (hdrop ▸ List.mem_cons_self))
        refine if_neg ?_
        rintro rfl
        rw [hexpected] at hc
        cases hc
    · cases hfound
  · cases hfound

/-- A row of digits starts no date. -/
theorem date?_digits : date? (chars ++ '\n' :: rest) = none := by
  rw [date?]
  rcases hyear : bounded 4 0 9999 (chars ++ '\n' :: rest) with - | ⟨year, behind⟩
  · rfl
  · simp only [Option.bind_eq_bind, Option.bind_some,
      exactly_of_bounded h rest hyear (by decide : '-'.isDigit = false) (by decide),
      Option.bind_none]

/-- A row of digits starts no time. -/
theorem time?_digits : time? (chars ++ '\n' :: rest) = none := by
  rw [time?]
  rcases hhour : bounded 2 0 23 (chars ++ '\n' :: rest) with - | ⟨hour, behind⟩
  · rfl
  · simp only [Option.bind_eq_bind, Option.bind_some,
      exactly_of_bounded h rest hhour (by decide : ':'.isDigit = false) (by decide),
      Option.bind_none]

theorem moment_digits : moment (chars ++ '\n' :: rest) = none := by
  rw [moment, moment?, date?_digits h]
  dsimp only
  rw [time?_digits h, Option.map_none]

variable (hne : chars ≠ [])

include hne

/-- A line of digits starts with a digit. -/
theorem isDigit_of_eq_cons {first : Char} {behind : List Char}
    (heq : chars ++ '\n' :: rest = first :: behind) : first.isDigit := by
  obtain ⟨c, more, rfl⟩ := List.exists_cons_of_ne_nil hne
  obtain ⟨rfl, -⟩ := List.cons.inj heq
  exact h _ List.mem_cons_self

/-- The second character of a line of digits is a digit or ends the line. -/
theorem isDigit_or_newline_of_eq_cons {first second : Char} {behind : List Char}
    (heq : chars ++ '\n' :: rest = first :: second :: behind) :
    second.isDigit ∨ second = '\n' := by
  obtain ⟨c, more, rfl⟩ := List.exists_cons_of_ne_nil hne
  rcases more with - | ⟨d, more⟩
  · cases heq
    exact .inr rfl
  · cases heq
    exact .inl (h _ (List.mem_cons_of_mem _ List.mem_cons_self))

theorem sign_digits : sign (chars ++ '\n' :: rest) = (false, chars ++ '\n' :: rest) := by
  unfold sign
  split
  · exact absurd (isDigit_of_eq_cons h rest hne ‹_›) (by decide)
  · exact absurd (isDigit_of_eq_cons h rest hne ‹_›) (by decide)
  · rfl

end Digits

section Number

variable (number : Nat) (rest : List Char)

/-- A number in front of the end of the line is no float, as it has neither a fraction nor an
exponent. -/
theorem float_toDigits : float (Nat.toDigits 10 number ++ '\n' :: rest) = none := by
  rw [float, sign_digits isDigit_toDigits rest Nat.toDigits_ne_nil]
  dsimp only
  split
  · exact absurd (isDigit_of_eq_cons isDigit_toDigits rest Nat.toDigits_ne_nil ‹_›) (by decide)
  · exact absurd (isDigit_of_eq_cons isDigit_toDigits rest Nat.toDigits_ne_nil ‹_›) (by decide)
  · rw [wholeDigits_toDigits, Option.bind_some]
    rfl

variable {number}

/-- A number below `2 ^ 63` is read in decimal. -/
theorem integer_toDigits (h : number < Nat.pow 2 63) :
    integer (Nat.toDigits 10 number ++ '\n' :: rest) = some ((number : Int), '\n' :: rest) := by
  have hbase (base : Char) (behind : List Char) (hdigit : base.isDigit = false)
      (hline : base ≠ '\n') :
      Nat.toDigits 10 number ++ '\n' :: rest ≠ '0' :: base :: behind := fun heq ↦ by
    rcases isDigit_or_newline_of_eq_cons isDigit_toDigits rest Nat.toDigits_ne_nil heq with
      hsecond | rfl
    · rw [hdigit] at hsecond
      cases hsecond
    · exact hline rfl
  have hfits : fitting? (number : Int) = some (number : Int) := by
    have hpow : Int.pow 2 63 = (Nat.pow 2 63 : Nat) := rfl
    rw [fitting?, if_pos]
    omega
  rw [integer.eq_def]
  dsimp only
  split
  · exact absurd ‹_› (hbase 'x' _ (by decide) (by decide))
  · exact absurd ‹_› (hbase 'o' _ (by decide) (by decide))
  · exact absurd ‹_› (hbase 'b' _ (by decide) (by decide))
  · rw [sign_digits isDigit_toDigits rest Nat.toDigits_ne_nil]
    dsimp only
    rw [wholeDigits_toDigits, Option.bind_some]
    dsimp only
    rw [ofDigits_toDigits, if_neg Bool.false_ne_true, hfits]
    rfl

/-- **Whole numbers below `2 ^ 63` are read back.** -/
theorem valueReadsAs_number (h : number < Nat.pow 2 63) :
    ValueReadsAs (toString number).toList (.integer number) := by
  have hchars : (toString number).toList = Nat.toDigits 10 number := Nat.toList_repr
  have hfirst {c : Char} {behind rest : List Char}
      (heq : Nat.toDigits 10 number ++ '\n' :: rest = c :: behind) : c.isDigit :=
    isDigit_of_eq_cons isDigit_toDigits rest Nat.toDigits_ne_nil heq
  have hspace (rest : List Char) : skipSpace (Nat.toDigits 10 number ++ '\n' :: rest) =
      Nat.toDigits 10 number ++ '\n' :: rest := by
    rcases hline : Nat.toDigits 10 number ++ '\n' :: rest with - | ⟨c, behind⟩
    · rfl
    · exact skipSpace_cons (isSpace_of_isBare (by simp [isBare, Char.isAlphanum, hfirst hline])) _
  intro rest
  rw [hchars, hspace, value.eq_def]
  split
  · exact absurd (hfirst ‹_›) (by decide)
  · exact absurd (hfirst ‹_›) (by decide)
  · exact absurd (hfirst ‹_›) (by decide)
  · exact absurd (hfirst ‹_›) (by decide)
  · exact absurd (hfirst ‹_›) (by decide)
  · exact absurd (hfirst ‹_›) (by decide)
  · rw [numeral, moment_digits isDigit_toDigits, float_toDigits, integer_toDigits rest h]
    rfl

end Number

/-! ### Lines with bare keys -/

section Bare

variable {name : String} (hname : IsBareKey name.toList)

include hname

/-- A bare key starts with a bare character. -/
theorem isBare_of_eq_cons {first : Char} {rest behind : List Char}
    (heq : name.toList ++ rest = first :: behind) : isBare first := by
  obtain ⟨c, more, hchars⟩ := List.exists_cons_of_ne_nil hname.1
  rw [hchars] at heq
  obtain ⟨rfl, -⟩ := List.cons.inj heq
  exact List.all_eq_true.1 hname.2 c (hchars ▸ List.mem_cons_self)

/-- **A key with its value is read back.** -/
theorem readsAs_assignment {written chars : List Char} {said : Value} (h : ValueReadsAs chars said)
    (hwritten : written = name.toList ++ ' ' :: '=' :: ' ' :: (chars ++ ['\n'])) :
    ReadsAs written (.assignment ⟨[], name, said⟩) := by
  intro rest
  have hkey : key (name.toList ++ ' ' :: '=' :: ' ' :: (chars ++ '\n' :: rest)) =
      some (([], name), '=' :: ' ' :: (chars ++ '\n' :: rest)) := by
    rw [key_bare hname (by decide) rfl (by decide), String.ofList_toList]
  have hvalue : value mostNesting (skipSpace (' ' :: (chars ++ '\n' :: rest))) =
      some (said, '\n' :: rest) := h rest
  have hshown : written ++ rest = name.toList ++ ' ' :: '=' :: ' ' :: (chars ++ '\n' :: rest) := by
    simp [hwritten]
  refine ⟨name.toList ++ ' ' :: '=' :: ' ' :: (chars ++ '\n' :: rest),
    List.append_ne_nil_of_left_ne_nil hname.1 _, ?_, ?_⟩
  · rw [hshown]
    rcases hline : name.toList ++ ' ' :: '=' :: ' ' :: (chars ++ '\n' :: rest) with - | ⟨c, behind⟩
    · rfl
    · exact skipLayout_of_shows (shows_of_isBare (isBare_of_eq_cons hname hline)) _
  · rw [statement.eq_def]
    split
    · exact absurd (isBare_of_eq_cons hname ‹_›) (by decide)
    · exact absurd (isBare_of_eq_cons hname ‹_›) (by decide)
    · rw [assignment, hkey, Option.bind_some]
      show ((value mostNesting (skipSpace _)).map _).bind _ = _
      rw [hvalue, Option.map_some, Option.bind_some]
      show (lineRest _).map _ = _
      rw [lineRest_newline, Option.map_some]

/-- **A header is read back.** -/
theorem readsAs_header {written : List Char}
    (hwritten : written = '[' :: (name.toList ++ [']', '\n'])) :
    ReadsAs written (.header (.table [] name)) := by
  intro rest
  have hkey : key (name.toList ++ ']' :: '\n' :: rest) =
      some (([], name), ']' :: '\n' :: rest) := by
    rw [key_bare hname (by decide) (skipSpace_cons (by decide) _) (by decide), String.ofList_toList]
  have hshown : written ++ rest = '[' :: (name.toList ++ ']' :: '\n' :: rest) := by
    simp [hwritten]
  refine ⟨'[' :: (name.toList ++ ']' :: '\n' :: rest), List.cons_ne_nil _ _, ?_, ?_⟩
  · rw [hshown]
    exact skipLayout_of_shows (by decide) _
  rw [statement.eq_def]
  split
  · rename_i heq
    exact absurd (isBare_of_eq_cons hname (List.cons.inj heq).2) (by decide)
  · rename_i heq
    obtain ⟨-, rfl⟩ := List.cons.inj heq
    rw [hkey, Option.bind_some]
    show (lineRest _).map _ = _
    rw [lineRest_newline, Option.map_some]
  · rename_i hother
    exact absurd rfl (hother _)

end Bare

end Exposure.Toml
