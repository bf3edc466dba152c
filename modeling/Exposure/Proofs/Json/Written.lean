import Exposure.Json.Basic
import Exposure.Json.Shape
import Mathlib.Data.List.Basic

/-!
# Reading what was written

Written JSON is read back. A reader is said to read back a way of writing (`Json.ReadsBack`) if it
takes the written value off the front of any text and hands back what follows, so that readers of
lists and records can be told from the readers of their parts.

* Strings: a character takes one step to read however it is escaped (`Json.textChars_escapeChar`),
  so strings of any characters are read back (`Json.readsBack_readText`).
* Lists are read back item by item, since no written value starts with space or with the closing
  bracket of the list (`Json.exists_starts`, `Json.readsBack_readList`).
* Records are read back field by field, if each written field is one that the shape knows and has
  not taken yet (`Json.Shape.Takes`, `Json.Shape.read_written`).

Readers take steps, as many as there are characters and one more. Every step but the last takes
characters, so the steps suffice.
-/

namespace Exposure.Json

/-- **A reader reads back what is written**, in front of whatever follows. -/
def ReadsBack {α : Type} (reader : Reader α) (written : α → Json) : Prop :=
  ∀ value rest, reader ((written value).compactChars ++ rest) = .ok (value, rest)

/-! ### Strings -/

/-- A hexadecimal digit has its value. -/
theorem hexValue?_hexDigit {n : Nat} (h : n < 16) : hexValue? (hexDigit n) = some n := by
  revert n
  decide

/-- The digits of a number below 256 make up its unit. -/
theorem hexUnit_hexDigits {n : Nat} (h : n < 256) (rest : List Char) :
    hexUnit ('0' :: '0' :: hexDigit (n / 16) :: hexDigit (n % 16) :: rest) = .ok (n, rest) := by
  have hhigh := hexValue?_hexDigit (show n / 16 < 16 by omega)
  have hlow := hexValue?_hexDigit (show n % 16 < 16 by omega)
  have hcount : ¬ byteCount ['0', '0', hexDigit (n / 16), hexDigit (n % 16)] < 4 := by
    have hfirst := Char.utf8Size_pos (hexDigit (n / 16))
    have hsecond := Char.utf8Size_pos (hexDigit (n % 16))
    have hzero : ('0' : Char).utf8Size = 1 := by decide
    simp only [byteCount, List.foldl_cons, List.foldl_nil, hzero]
    omega
  have hvalue : n / 16 * 16 + n % 16 = n := by omega
  rw [hexUnit]
  simp only [List.take_succ_cons, List.take_zero, if_neg hcount, hhigh, hlow,
    show hexValue? '0' = some 0 by decide, Nat.zero_mul, Nat.zero_add, hvalue]

/-- A character is read back from its unit, which is below the surrogates. -/
theorem escape_hexDigits {c : Char} (h : c.toNat < 256) (rest : List Char) :
    escape ('u' :: '0' :: '0' :: hexDigit (c.toNat / 16) :: hexDigit (c.toNat % 16) :: rest) =
      .ok (c, rest) := by
  rw [escape, unitEscape, hexUnit_hexDigits h]
  dsimp only
  rw [if_neg (by omega), if_neg (by omega), Char.ofNat_toNat]

/-- An escape is read in one step. -/
theorem textChars_of_escape {chars rest : List Char} {c : Char} (h : escape chars = .ok (c, rest))
    (steps : Nat) :
    textChars (steps + 1) ('\\' :: chars) =
      (textChars steps rest).map fun (value, rest) ↦ (c :: value, rest) := by
  rw [textChars, h]

/-- **A written character is read back in one step**, be it escaped or not. -/
theorem textChars_escapeChar (c : Char) (steps : Nat) (rest : List Char) :
    textChars (steps + 1) (escapeChar c ++ rest) =
      (textChars steps rest).map fun (value, rest) ↦ (c :: value, rest) := by
  rw [escapeChar]
  split_ifs with hquote hslash hback hform hline hreturn htab hcontrol
  · exact textChars_of_escape (by rw [hquote]; rfl) steps
  · exact textChars_of_escape (by rw [hslash]; rfl) steps
  · exact textChars_of_escape (by rw [hback]; rfl) steps
  · exact textChars_of_escape (by rw [hform]; rfl) steps
  · exact textChars_of_escape (by rw [hline]; rfl) steps
  · exact textChars_of_escape (by rw [hreturn]; rfl) steps
  · exact textChars_of_escape (by rw [htab]; rfl) steps
  · exact textChars_of_escape (escape_hexDigits (show c.toNat < 256 by omega) rest) steps
  · rw [List.singleton_append, textChars, if_neg hcontrol]
    · exact fun h ↦ hquote h
    · exact fun h ↦ hslash h

/-- Written characters are read back up to the closing quote, by induction on the characters. -/
theorem textChars_written (value rest : List Char) {steps : Nat} (h : value.length < steps) :
    textChars steps (value.flatMap escapeChar ++ '"' :: rest) = .ok (value, rest) := by
  induction value generalizing steps with
  | nil =>
    obtain ⟨steps, rfl⟩ := Nat.exists_eq_add_of_lt h
    rfl
  | cons c value ih =>
    obtain ⟨steps, rfl⟩ : ∃ left, steps = left + 1 := ⟨steps - 1, by omega⟩
    rw [List.flatMap_cons, List.append_assoc, textChars_escapeChar,
      ih (Nat.lt_of_succ_lt_succ h)]
    rfl

/-- Escaping makes no string shorter. -/
theorem length_le_length_flatMap_escapeChar (value : List Char) :
    value.length ≤ (value.flatMap escapeChar).length := by
  have hpos (c : Char) : 1 ≤ (escapeChar c).length := by
    rw [escapeChar]
    split_ifs <;> simp
  induction value with
  | nil => exact Nat.zero_le _
  | cons c value ih =>
    rw [List.flatMap_cons, List.length_append, List.length_cons]
    have hc := hpos c
    omega

/-- A string is read back from behind its opening quote. -/
theorem text_written (value : String) (rest : List Char) :
    text (value.toList.flatMap escapeChar ++ '"' :: rest) = .ok (value, rest) := by
  have hlength := length_le_length_flatMap_escapeChar value.toList
  rw [text, textChars_written value.toList rest (by rw [List.length_append]; omega)]
  show Except.ok (String.ofList value.toList, rest) = _
  rw [String.ofList_toList]

theorem quote_append (value : String) (rest : List Char) :
    quote value ++ rest = '"' :: (value.toList.flatMap escapeChar ++ '"' :: rest) := by
  rw [quote, List.cons_append, List.append_assoc, List.singleton_append]

/-- **Strings are read back.** -/
theorem readsBack_readText : ReadsBack readText .str := by
  intro value rest
  rw [compactChars, quote_append]
  exact text_written value rest

/-- A string is read back where it may be absent. -/
theorem readOptionalText_written (value : String) (rest : List Char) :
    readOptionalText ((Json.str value).compactChars ++ rest) = .ok (some value, rest) := by
  have hread := readsBack_readText value rest
  rw [compactChars, quote_append] at hread ⊢
  show (readText _).map _ = _
  rw [hread]
  rfl

/-! ### Lists -/

/-- A character that a value may start with: neither space nor the end of a list. -/
def Starts (c : Char) : Prop :=
  c ≠ ' ' ∧ c ≠ '\n' ∧ c ≠ '\t' ∧ c ≠ '\r' ∧ c ≠ ']'

instance (c : Char) : Decidable (Starts c) :=
  inferInstanceAs (Decidable (_ ∧ _))

/-- **Every written value starts with something**, and neither with space nor with the end of a
list. -/
theorem exists_starts (json : Json) :
    ∃ c rest, json.compactChars = c :: rest ∧ Starts c := by
  cases json with
  | null => exact ⟨_, _, rfl, by decide⟩
  | bool value => cases value <;> exact ⟨_, _, rfl, by decide⟩
  | num value =>
    have hchars : (toString value).toList = Nat.toDigits 10 value := Nat.toList_repr
    obtain ⟨c, rest, hdigits⟩ : ∃ c rest, Nat.toDigits 10 value = c :: rest :=
      List.exists_cons_of_ne_nil Nat.toDigits_ne_nil
    have hdigit : c.isDigit :=
      Nat.isDigit_of_mem_toDigits (by decide) (by decide) (hdigits ▸ List.mem_cons_self)
    refine ⟨c, rest, by rw [compactChars, hchars, hdigits], ?_⟩
    refine ⟨?_, ?_, ?_, ?_, ?_⟩ <;> rintro rfl <;> exact absurd hdigit (by decide)
  | str value => exact ⟨_, _, rfl, by decide⟩
  | arr items =>
    cases items with
    | nil => exact ⟨_, _, rfl, by decide⟩
    | cons item items => exact ⟨_, _, by rw [compactChars], by decide⟩
  | obj fields =>
    rcases fields with - | ⟨⟨key, value⟩, fields⟩
    · exact ⟨_, _, rfl, by decide⟩
    · exact ⟨_, _, by rw [compactChars], by decide⟩

theorem skipSpace_cons {c : Char} (h : Starts c) (rest : List Char) :
    skipSpace (c :: rest) = c :: rest := by
  obtain ⟨hblank, hline, htab, hreturn, -⟩ := h
  rw [skipSpace, List.dropWhile_cons_of_neg]
  simp [hblank, hline, htab, hreturn]

/-- In front of a written value there is an item, first or behind a comma. -/
theorem nextItem_written (json : Json) (rest : List Char) :
    nextItem true (json.compactChars ++ rest) = .ok (some (json.compactChars ++ rest)) ∧
      nextItem false (',' :: (json.compactChars ++ rest)) =
        .ok (some (json.compactChars ++ rest)) := by
  obtain ⟨c, chars, hchars, hstarts⟩ := exists_starts json
  have hskip := skipSpace_cons hstarts (chars ++ rest)
  have hcomma := skipSpace_cons (show Starts ',' by decide) (c :: (chars ++ rest))
  have hend : c ≠ ']' := hstarts.2.2.2.2
  rw [hchars, List.cons_append]
  constructor
  · simp [nextItem, hskip]
  · simp [nextItem, hcomma, hskip, hend]

section Lists

variable {α : Type} {reader : Reader α} {written : α → Json} (h : ReadsBack reader written)
include h

/-- The items behind the first one are read back, by induction on the items. -/
theorem items_written (values : List α) (rest : List Char) {steps : Nat}
    (hsteps : values.length < steps) :
    items reader steps false (compactItems (values.map written) ++ rest) = .ok (values, rest) := by
  induction values generalizing steps with
  | nil =>
    obtain ⟨steps, rfl⟩ := Nat.exists_eq_add_of_lt hsteps
    rfl
  | cons value values ih =>
    obtain ⟨steps, rfl⟩ : ∃ left, steps = left + 1 := ⟨steps - 1, by omega⟩
    rw [List.map_cons, compactItems, List.cons_append, List.append_assoc, items,
      (nextItem_written _ _).2]
    dsimp only
    rw [h value]
    dsimp only
    rw [ih (Nat.lt_of_succ_lt_succ hsteps)]
    rfl

omit h in
theorem length_lt_length_compactItems (values : List Json) :
    values.length < (compactItems values).length := by
  induction values with
  | nil => decide
  | cons value values ih =>
    rw [compactItems, List.length_cons, List.length_cons, List.length_append]
    omega

/-- **Lists are read back** if their items are. -/
theorem readsBack_readList :
    ReadsBack (readList reader) fun values ↦ .arr (values.map written) := by
  intro values rest
  cases values with
  | nil => rfl
  | cons value values =>
    have hlength := length_lt_length_compactItems (values.map written)
    rw [List.length_map] at hlength
    show readList reader ((arr (written value :: values.map written)).compactChars ++ rest) = _
    rw [compactChars, List.cons_append, List.append_assoc]
    show items reader _ true _ = _
    rw [items, (nextItem_written _ _).1]
    dsimp only
    rw [h value]
    dsimp only
    rw [items_written h values rest (by simp only [List.length_append]; omega)]
    rfl

end Lists

/-! ### Records -/

namespace Shape

variable {δ α : Type} {shape : Shape δ α}

/-- **Written fields are taken into a draft** one after the other: each is known and new, and its
value is read whatever follows. -/
inductive Takes (shape : Shape δ α) : δ → List (String × Json) → δ → Prop
  | nil {draft : δ} : Takes shape draft [] draft
  | cons {draft next last : δ} {field : Field δ} {key : String} {value : Json}
      {fields : List (String × Json)}
      (known : shape.fields.find? (·.key = key) = some field)
      (new : field.isTaken draft = false)
      (taken : ∀ rest, field.take draft (value.compactChars ++ rest) = .ok (next, rest))
      (others : Takes shape next fields last) : Takes shape draft ((key, value) :: fields) last

/-- Fields are taken in two goes as they are in one. -/
theorem Takes.append {draft next last : δ} {fields others : List (String × Json)}
    (h : shape.Takes draft fields next) (hothers : shape.Takes next others last) :
    shape.Takes draft (fields ++ others) last := by
  induction h with
  | nil => exact hothers
  | cons known new taken _ ih => exact .cons known new taken (ih hothers)

/-- A field is taken in one step, first or behind a comma. -/
theorem entries_step {draft next : δ} {field : Field δ} {key : String} {value : Json}
    (known : shape.fields.find? (·.key = key) = some field)
    (new : field.isTaken draft = false)
    (taken : ∀ rest, field.take draft (value.compactChars ++ rest) = .ok (next, rest))
    {first : Bool} {chars rest : List Char}
    (hkey : nextKey first chars = .ok (some (key.toList.flatMap escapeChar ++
      '"' :: ':' :: (value.compactChars ++ rest)))) (steps : Nat) :
    shape.entries (steps + 1) first draft chars = shape.entries steps false next rest := by
  have hfield : shape.takeField draft key (':' :: (value.compactChars ++ rest)) =
      .ok (next, rest) := by
    rw [takeField, known]
    dsimp only
    rw [new, if_neg Bool.false_ne_true]
    exact taken rest
  rw [Shape.entries, hkey]
  dsimp only
  rw [text_written]
  dsimp only
  rw [hfield]

/-- The fields behind the first one are taken, by induction on the fields. -/
theorem Takes.entries {draft last : δ} {fields : List (String × Json)}
    (h : shape.Takes draft fields last) (rest : List Char) {steps : Nat}
    (hsteps : fields.length < steps) :
    shape.entries steps false draft (compactFields fields ++ rest) = .ok (last, rest) := by
  induction h generalizing steps with
  | nil =>
    obtain ⟨steps, rfl⟩ := Nat.exists_eq_add_of_lt hsteps
    rfl
  | cons known new taken others ih =>
    obtain ⟨steps, rfl⟩ : ∃ left, steps = left + 1 := ⟨steps - 1, by omega⟩
    rw [compactFields, List.cons_append, List.append_assoc, quote_append, List.cons_append,
      List.append_assoc, entries_step known new taken rfl]
    exact ih (Nat.lt_of_succ_lt_succ hsteps)

theorem length_lt_length_compactFields (fields : List (String × Json)) :
    fields.length < (compactFields fields).length := by
  induction fields with
  | nil => decide
  | cons field fields ih =>
    rw [compactFields, List.length_cons, List.length_cons, List.length_append, List.length_cons,
      List.length_append]
    omega

/-- **A written record is read back** if its fields are taken and the draft can be finished. -/
theorem read_written {last : δ} {fields : List (String × Json)} {value : α}
    (h : shape.Takes shape.blank fields last) (hfinish : shape.finish last = .ok value)
    (rest : List Char) :
    shape.read ((Json.obj fields).compactChars ++ rest) = .ok (value, rest) := by
  have hfinished : shape.finished last rest = .ok (value, rest) := by
    rw [finished, hfinish]
  rcases h with - | ⟨known, new, taken, others⟩
  · exact hfinished
  · rename_i field key written fields
    have hlength := length_lt_length_compactFields fields
    rw [compactChars, List.cons_append, List.append_assoc, quote_append, List.cons_append,
      List.append_assoc]
    show (shape.entries _ true shape.blank _).bind _ = _
    rw [entries_step known new taken rfl, others.entries rest]
    · exact hfinished
    · simp only [List.length_cons, List.length_append]
      omega

end Shape

/-- A text that holds a written value and nothing else is read back. -/
theorem ReadsBack.readWhole {α : Type} {reader : Reader α} {written : α → Json}
    (h : ReadsBack reader written) (value : α) :
    readWhole reader (written value).compact = .ok value := by
  have hread := h value []
  rw [List.append_nil] at hread
  rw [Json.readWhole, compact, String.toList_ofList, hread]
  rfl

end Exposure.Json
