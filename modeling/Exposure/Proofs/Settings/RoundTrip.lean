import Exposure.Proofs.Settings.Fields
import Exposure.Proofs.Toml.Written
import Exposure.Settings.Writer

/-!
# Saving and loading settings

Settings that are written and loaded again, with no variable that sets anything, are the same
settings, whatever the defaults are (`load_write`).

Each line of the text reads as a key with its value or as a header (`readsAs_written`), so the text
is read as the table of the settings (`read_write`). That table bears every field, so the file
decides all of them.
-/

namespace Exposure.Settings

open Toml (ReadsAs ValueReadsAs IsBareKey)

variable (settings : Settings)

/-! ### Lines -/

theorem readsAs_keyLine {name value : String} {said : Value} (hname : IsBareKey name.toList)
    (h : ValueReadsAs value.toList said) :
    ReadsAs (keyLine name value).toList (.assignment ⟨[], name, said⟩) :=
  Toml.readsAs_assignment hname h (by simp [keyLine])

/-- The words of settings need no escapes. -/
theorem DefaultVisibility.isPlain_text (visibility : DefaultVisibility) :
    visibility.text.toList.all Toml.isPlain := by
  cases visibility <;> decide

theorem Format.isPlain_text (format : Format) : format.text.toList.all Toml.isPlain := by
  cases format <;> decide

/-- The lines that settings are written as. -/
def written : List String :=
  [keyLine "version" (toString settings.version), keyLine "debug" (flagText settings.debug),
    "\n[resolution]\n",
    keyLine "max_alias_depth" (toString settings.resolution.maxAliasDepth),
    keyLine "default_visibility" (wordText settings.resolution.defaultVisibility.text),
    keyLine "parallel_threads" (toString settings.resolution.parallelThreads),
    "\n[output]\n",
    keyLine "format" (wordText settings.output.format.text),
    keyLine "show_warnings" (flagText settings.output.showWarnings)]

/-- What the lines say. -/
def lines : List Toml.Line :=
  [.assignment ⟨[], "version", .integer settings.version⟩,
    .assignment ⟨[], "debug", .bool settings.debug⟩,
    .header (.table [] "resolution"),
    .assignment ⟨[], "max_alias_depth", .integer settings.resolution.maxAliasDepth⟩,
    .assignment ⟨[], "default_visibility", .text settings.resolution.defaultVisibility.text⟩,
    .assignment ⟨[], "parallel_threads", .integer settings.resolution.parallelThreads⟩,
    .header (.table [] "output"),
    .assignment ⟨[], "format", .text settings.output.format.text⟩,
    .assignment ⟨[], "show_warnings", .bool settings.output.showWarnings⟩]

/-- The table that settings are written as. -/
def document : Entries :=
  [("version", .integer settings.version), ("debug", .bool settings.debug),
    ("resolution", .table
      [("max_alias_depth", .integer settings.resolution.maxAliasDepth),
        ("default_visibility", .text settings.resolution.defaultVisibility.text),
        ("parallel_threads", .integer settings.resolution.parallelThreads)]),
    ("output", .table
      [("format", .text settings.output.format.text),
        ("show_warnings", .bool settings.output.showWarnings)])]

theorem toList_write : settings.write.toList = (settings.written.map String.toList).flatten := by
  simp [write, written]

variable {settings}

theorem isWritable_iff : settings.isWritable ↔
    settings.resolution.maxAliasDepth < Nat.pow 2 63 ∧
      settings.resolution.parallelThreads < Nat.pow 2 63 := by
  rw [isWritable, Bool.and_eq_true, decide_eq_true_iff, decide_eq_true_iff]

/-- Every line of written settings is read as what it says. -/
theorem readsAs_written (hversion : settings.version < Nat.pow 2 63)
    (hwritable : settings.isWritable) :
    List.Forall₂ ReadsAs (settings.written.map String.toList) settings.lines := by
  obtain ⟨hdepth, hthreads⟩ := isWritable_iff.1 hwritable
  have hresolution : ReadsAs "\n[resolution]\n".toList (.header (.table [] "resolution")) :=
    ReadsAs.newline (Toml.readsAs_header (by decide) rfl)
  have houtput : ReadsAs "\n[output]\n".toList (.header (.table [] "output")) :=
    ReadsAs.newline (Toml.readsAs_header (by decide) rfl)
  exact .cons (readsAs_keyLine (by decide) (Toml.valueReadsAs_number hversion)) <|
    .cons (readsAs_keyLine (by decide) (Toml.valueReadsAs_flag _)) <|
    .cons hresolution <|
    .cons (readsAs_keyLine (by decide) (Toml.valueReadsAs_number hdepth)) <|
    .cons (readsAs_keyLine (by decide)
      (Toml.valueReadsAs_word (DefaultVisibility.isPlain_text _))) <|
    .cons (readsAs_keyLine (by decide) (Toml.valueReadsAs_number hthreads)) <|
    .cons houtput <|
    .cons (readsAs_keyLine (by decide) (Toml.valueReadsAs_word (Format.isPlain_text _))) <|
    .cons (readsAs_keyLine (by decide) (Toml.valueReadsAs_flag _)) .nil

theorem read_write (hversion : settings.version < Nat.pow 2 63) (hwritable : settings.isWritable) :
    Toml.read settings.write = some settings.document := by
  rw [Toml.read_written (readsAs_written hversion hwritable) ?_]
  · rfl
  · have hfirst : settings.write.toList.head? = some 'v' := by simp [write, keyLine]
    rw [← toList_write]
    obtain ⟨rest, hrest⟩ := List.head?_eq_some_iff.1 hfirst
    rw [hrest]
    rfl

/-! ### Fields -/

theorem Decoder.number_integer {limit count : Nat} (h : count < limit) (expected : String) :
    number limit expected (.integer count) = .ok count := by
  rw [number, if_pos ⟨Int.natCast_nonneg count, Int.ofNat_lt.2 h⟩]
  rfl

theorem Decoder.number32_integer {count : Nat} (h : count < Nat.pow 2 32) :
    number32 (.integer count) = .ok count := number_integer h _

theorem Decoder.number64_integer {count : Nat} (h : count < Nat.pow 2 63) :
    number64 (.integer count) = .ok count :=
  number_integer (Nat.lt_trans h (Nat.pow_lt_pow_right (by decide) (by decide))) _

/-- **The table of settings bears every field.** -/
theorem bears_document (hversion : settings.version < Nat.pow 2 32)
    (hwritable : settings.isWritable) {α : Type} (key : Key α) :
    ∃ found, (Value.table settings.document).Bears key.path found ∧
      key.decoder found = .ok (key.get settings) := by
  obtain ⟨hdepth, hthreads⟩ := isWritable_iff.1 hwritable
  cases key with
  | version => exact ⟨_, ⟨_, _, rfl, rfl, rfl⟩, Decoder.number32_integer hversion⟩
  | debug => exact ⟨_, ⟨_, _, rfl, rfl, rfl⟩, rfl⟩
  | maxAliasDepth =>
    exact ⟨_, ⟨_, _, rfl, rfl, _, _, rfl, rfl, rfl⟩,
      Decoder.number64_integer hdepth⟩
  | defaultVisibility =>
    exact ⟨_, ⟨_, _, rfl, rfl, _, _, rfl, rfl, rfl⟩, Decoder.visibility_text _⟩
  | parallelThreads =>
    exact ⟨_, ⟨_, _, rfl, rfl, _, _, rfl, rfl, rfl⟩,
      Decoder.number64_integer hthreads⟩
  | format => exact ⟨_, ⟨_, _, rfl, rfl, _, _, rfl, rfl, rfl⟩, Decoder.format_text _⟩
  | showWarnings => exact ⟨_, ⟨_, _, rfl, rfl, _, _, rfl, rfl, rfl⟩, rfl⟩

/-- **Settings survive saving** where no variable sets anything. Every field is written, so nothing
is left to the defaults: any settings may be the defaults, those of a machine too. The version has
32 bits, and TOML has the other numbers below `2 ^ 63`. -/
theorem load_write (hversion : settings.version < Nat.pow 2 32)
    (hdepth : settings.resolution.maxAliasDepth < Nat.pow 2 63)
    (hthreads : settings.resolution.parallelThreads < Nat.pow 2 63) (path : String)
    {environment : List (String × String)}
    (henvironment : ∀ setter ∈ environment, Environment.path? setter.1 = none) :
    ∃ text, settings.write? = some text ∧
      (∀ default, loadOver default (some ⟨path, .ok text⟩) environment = .ok settings) ∧
      ∀ processors, load processors (some ⟨path, .ok text⟩) environment = .ok settings := by
  have hwritable := isWritable_iff.2 ⟨hdepth, hthreads⟩
  have hsmall : Nat.pow 2 32 < Nat.pow 2 63 := Nat.pow_lt_pow_right (by decide) (by decide)
  have hbears {α : Type} (key : Key α) := bears_document hversion hwritable key
  have hfits : settings.document.Fits := fun key ↦ by
    obtain ⟨found, hfound, hvalue⟩ := hbears key
    exact .inr ⟨found, _, hfound, hvalue⟩
  have hquiet : Environment.Fits environment := fun setter hsetter named hnamed ↦ by
    rw [henvironment setter hsetter] at hnamed
    cases hnamed
  have hfile : File.entries? (some ⟨path, .ok settings.write⟩) = some settings.document := by
    rw [File.entries?_of_read (read_write (Nat.lt_trans hversion hsmall) hwritable)]
    rfl
  have hload (default : Settings) :
      loadOver default (some ⟨path, .ok settings.write⟩) environment = .ok settings := by
    -- The file spares no key, so the defaults need not fit.
    obtain ⟨loaded, hload, hfields⟩ := loadOver_eq_ok hfile (fun key hspares ↦ by
      obtain ⟨found, hfound, -⟩ := hbears key
      cases hspares.at?_eq.symm.trans hfound.at?_eq) hfits hquiet
    rw [hload]
    refine congrArg Except.ok (Key.settings_ext fun key ↦ ?_)
    obtain ⟨found, hfound, hvalue⟩ := hbears key
    have hnone : key.inEnvironment environment = none := by
      rw [Key.inEnvironment, Environment.setting?_of_none henvironment, Option.bind_none]
    have hsome : key.inEntries settings.document = some (key.get settings) := by
      rw [Key.inEntries, hfound.at?_eq, Option.bind_some, hvalue]
      rfl
    rw [hfields key, Key.layered, hnone, hsome]
    rfl
  exact ⟨settings.write, if_pos hwritable, hload, fun processors ↦ hload (defaults processors)⟩

/-- The largest numbers that can be written, and nothing as on any machine by default. -/
def largest : Settings :=
  ⟨4294967295, true, ⟨9223372036854775807, .visible, 9223372036854775807⟩, ⟨.json, false⟩⟩

/-- They are read over defaults that are larger still, and over those of a machine. -/
theorem load_largest_written :
    ∃ text, largest.write? = some text ∧
      loadOver ⟨7, false, ⟨18446744073709551615, .hidden, 18446744073709551615⟩, ⟨.table, true⟩⟩
        (some ⟨"settings.toml", .ok text⟩) [("HOME", "/root")] = .ok largest ∧
      load 8 (some ⟨"settings.toml", .ok text⟩) [("HOME", "/root")] = .ok largest := by
  have hversion : largest.version < Nat.pow 2 32 := by decide +kernel
  have hdepth : largest.resolution.maxAliasDepth < Nat.pow 2 63 := by decide +kernel
  have hthreads : largest.resolution.parallelThreads < Nat.pow 2 63 := by decide +kernel
  have hhome : Environment.path? "HOME" = none := by decide +kernel
  have hquiet : ∀ setter ∈ [("HOME", "/root")], Environment.path? setter.1 = none :=
    List.forall_mem_singleton.2 hhome
  obtain ⟨text, htext, hover, hload⟩ :=
    load_write hversion hdepth hthreads "settings.toml" hquiet
  exact ⟨text, htext, hover _, hload 8⟩

end Exposure.Settings
