import Exposure.Proofs.Settings.Unwrapping
import Exposure.Proofs.Settings.Variables
import Exposure.Proofs.Toml.Keys
import Exposure.Settings.Loading

/-!
# Settings field by field

The seven fields of settings have their keys (`Key`), and what a layer says about a field is what
can be read at the path of its key. A table of settings **fits** if it has a value that can be read
at a key or spares the key (`Entries.Fits`), whatever else is in it; an environment fits if all that
its variables set is such a value at a key or something apart from all keys (`Environment.Fits`).

Where both fit, every field comes from the uppermost layer that says something about it
(`bears_together`), and loading decodes just that (`loadOver_eq_ok`).
-/

namespace Exposure.Settings

/-- The keys of settings, with what kind of value each has. -/
inductive Key : Type → Type
  | version : Key Nat
  | debug : Key Bool
  | maxAliasDepth : Key Nat
  | defaultVisibility : Key DefaultVisibility
  | parallelThreads : Key Nat
  | format : Key Format
  | showWarnings : Key Bool

namespace Key

variable {α : Type}

/-- Where a key stands in a table of settings. -/
def path : Key α → List String
  | version => ["version"]
  | debug => ["debug"]
  | maxAliasDepth => ["resolution", "max_alias_depth"]
  | defaultVisibility => ["resolution", "default_visibility"]
  | parallelThreads => ["resolution", "parallel_threads"]
  | format => ["output", "format"]
  | showWarnings => ["output", "show_warnings"]

/-- How the value under a key is read. -/
def decoder : Key α → Decoder α
  | version => Decoder.number32
  | debug => Decoder.flag
  | maxAliasDepth => Decoder.number64
  | defaultVisibility => Decoder.visibility
  | parallelThreads => Decoder.number64
  | format => Decoder.format
  | showWarnings => Decoder.flag

/-- The field of a key. -/
def get : Key α → Settings → α
  | version, settings => settings.version
  | debug, settings => settings.debug
  | maxAliasDepth, settings => settings.resolution.maxAliasDepth
  | defaultVisibility, settings => settings.resolution.defaultVisibility
  | parallelThreads, settings => settings.resolution.parallelThreads
  | format, settings => settings.output.format
  | showWarnings, settings => settings.output.showWarnings

theorem path_ne_nil (key : Key α) : key.path ≠ [] := by
  cases key <;> exact List.cons_ne_nil _ _

/-- Settings are told by their fields. -/
theorem settings_ext {a b : Settings} (h : ∀ {α : Type} (key : Key α), key.get a = key.get b) :
    a = b := by
  obtain ⟨version, debug, ⟨depth, visibility, threads⟩, ⟨format, warnings⟩⟩ := a
  obtain rfl : version = _ := h .version
  obtain rfl : debug = _ := h .debug
  obtain rfl : depth = _ := h .maxAliasDepth
  obtain rfl : visibility = _ := h .defaultVisibility
  obtain rfl : threads = _ := h .parallelThreads
  obtain rfl : format = _ := h .format
  obtain rfl : warnings = _ := h .showWarnings
  rfl

end Key

/-! ### Single values -/

theorem Decoder.isSingle_of_flag {found : Value} {value : Bool} (h : flag found = .ok value) :
    found.isSingle := by
  cases found <;> first | rfl | cases h

theorem Decoder.isSingle_of_number {limit : Nat} {expected : String} {found : Value} {value : Nat}
    (h : number limit expected found = .ok value) : found.isSingle := by
  cases found <;> first | rfl | cases h

theorem Decoder.isSingle_of_word {α : Type} {expected : String} {all : List α} {text : α → String}
    {found : Value} {value : α} (h : word expected all text found = .ok value) :
    found.isSingle := by
  cases found with
  | table entries =>
    unfold word at h
    dsimp only at h
    split at h
    · cases h
    · split at h <;> cases h
  | list items => cases h
  | _ => rfl

theorem Decoder.visibility_text (value : DefaultVisibility) :
    visibility (.text value.text) = .ok value := by
  cases value <;> rfl

theorem Decoder.format_text (value : Format) : format (.text value.text) = .ok value := by
  cases value <;> rfl

/-- What is read under a key is a single value. -/
theorem Key.isSingle_of_decoder {α : Type} (key : Key α) {found : Value} {value : α}
    (h : key.decoder found = .ok value) : found.isSingle := by
  cases key with
  | version | maxAliasDepth | parallelThreads => exact Decoder.isSingle_of_number h
  | debug | showWarnings => exact Decoder.isSingle_of_flag h
  | defaultVisibility | format => exact Decoder.isSingle_of_word h

/-! ### Decoding -/

theorem Decoder.entryOr_eq_ok {α : Type} {default value : α} {decode : Decoder α}
    {entries : Entries} {key : String} {found : Value} (hfound : entries.get? key = some found)
    (hvalue : decode found = .ok value) : entryOr default decode entries key = .ok value := by
  rw [entryOr, hfound]
  show (decode found).mapError _ = _
  rw [hvalue]
  rfl

theorem Value.Bears.get?_eq {entries : Entries} {key : String} {found : Value}
    (h : (Value.table entries).Bears [key] found) : entries.get? key = some found := by
  obtain ⟨_, _, ⟨⟩, hinner, rfl⟩ := h
  exact hinner

/-- What stands in a section stands in a table under its key. -/
theorem Value.Bears.exists_section {entries : Entries} {key inner : String} {found : Value}
    (h : (Value.table entries).Bears [key, inner] found) :
    ∃ part, entries.get? key = some (.table part) ∧ Entries.get? part inner = some found := by
  obtain ⟨_, _, ⟨⟩, hpart, part, _, rfl, hinner, rfl⟩ := h
  exact ⟨part, hpart, hinner⟩

/-- **Decoding takes every field from its place.** -/
theorem decode_of_bears {default : Settings} {entries : Entries} {said : {α : Type} → Key α → α}
    (h : ∀ {α : Type} (key : Key α), ∃ found,
      (Value.table entries).Bears key.path found ∧ key.decoder found = .ok (said key)) :
    ∃ settings, decode default entries = .ok settings ∧
      ∀ {α : Type} (key : Key α), key.get settings = said key := by
  obtain ⟨_, hversion, hversion'⟩ := h .version
  obtain ⟨_, hdebug, hdebug'⟩ := h .debug
  obtain ⟨_, hdepth, hdepth'⟩ := h .maxAliasDepth
  obtain ⟨_, hvisibility, hvisibility'⟩ := h .defaultVisibility
  obtain ⟨_, hthreads, hthreads'⟩ := h .parallelThreads
  obtain ⟨_, hformat, hformat'⟩ := h .format
  obtain ⟨_, hwarnings, hwarnings'⟩ := h .showWarnings
  simp only [Key.decoder] at hversion' hdebug' hdepth' hvisibility' hthreads' hformat' hwarnings'
  -- The keys of a section are found in one and the same table.
  obtain ⟨planning, hplanning, hdepth⟩ := hdepth.exists_section
  obtain ⟨other, hother, hvisibility⟩ := hvisibility.exists_section
  obtain rfl : planning = other := by simpa [hplanning] using hother
  obtain ⟨other, hother, hthreads⟩ := hthreads.exists_section
  obtain rfl : planning = other := by simpa [hplanning] using hother
  obtain ⟨showing, hshowing, hformat⟩ := hformat.exists_section
  obtain ⟨other, hother, hwarnings⟩ := hwarnings.exists_section
  obtain rfl : showing = other := by simpa [hshowing] using hother
  have houtput : Decoder.output default.output (.table showing) =
      .ok ⟨said .format, said .showWarnings⟩ := by
    rw [Decoder.output, Decoder.entryOr_eq_ok hformat hformat',
      Decoder.entryOr_eq_ok hwarnings hwarnings']
    rfl
  have hresolution : Decoder.resolution default.resolution (.table planning) =
      .ok ⟨said .maxAliasDepth, said .defaultVisibility, said .parallelThreads⟩ := by
    rw [Decoder.resolution, Decoder.entryOr_eq_ok hvisibility hvisibility',
      Decoder.entryOr_eq_ok hdepth hdepth', Decoder.entryOr_eq_ok hthreads hthreads']
    rfl
  refine ⟨⟨said .version, said .debug,
    ⟨said .maxAliasDepth, said .defaultVisibility, said .parallelThreads⟩,
    ⟨said .format, said .showWarnings⟩⟩, ?_, fun key ↦ by cases key <;> rfl⟩
  rw [decode, Decoder.entryOr_eq_ok hdebug.get?_eq hdebug',
    Decoder.entryOr_eq_ok hshowing houtput, Decoder.entryOr_eq_ok hplanning hresolution,
    Decoder.entryOr_eq_ok hversion.get?_eq hversion']
  rfl

/-! ### Layers of settings -/

/-- The document of a settings file, if it can be read; where there is no file it is empty. -/
def File.document? : Option File → Option Entries
  | none => some []
  | some file => file.content.toOption.bind Toml.read

/-- What a settings file says: what its document stands for. -/
def File.entries? (file : Option File) : Option Entries :=
  (File.document? file).bind entriesUnwrapped

theorem File.entries?_of_read {path text : String} {document : Entries}
    (h : Toml.read text = some document) :
    File.entries? (some ⟨path, .ok text⟩) = entriesUnwrapped document := by
  rw [File.entries?, File.document?]
  show (Toml.read text).bind entriesUnwrapped = _
  rw [h, Option.bind_some]

/-- A table of settings fits if it has a value at a key that can be read, or spares the key. A
section that is written as a list of its values has no keys, so it does not fit. -/
def Entries.Fits (entries : Entries) : Prop :=
  ∀ {α : Type} (key : Key α), (Value.table entries).Spares key.path ∨
    ∃ found value, (Value.table entries).Bears key.path found ∧ key.decoder found = .ok value

/-- An environment fits if every variable that sets anything sets a value that can be read at a key,
or something apart from all keys. -/
def Environment.Fits (environment : List (String × String)) : Prop :=
  ∀ setter ∈ environment, ∀ named, path? setter.1 = some named → ∀ {α : Type} (key : Key α),
    (named = key.path ∧ ∃ value, key.decoder (Environment.value setter.2) = .ok value) ∨
      Apart named key.path

namespace Key

variable {α : Type} (key : Key α)

/-- What a table of settings says about a field. -/
def inEntries (entries : Entries) : Option α :=
  ((Value.table entries).at? key.path).bind fun found ↦ (key.decoder found).toOption

/-- What an environment says about a field: what the last variable for it sets. -/
def inEnvironment (environment : List (String × String)) : Option α :=
  (Environment.setting? environment key.path).bind fun found ↦ (key.decoder found).toOption

/-- What the layers come to at a field: what the environment says, or else the file, or else the
default. -/
def layered (default : Settings) (entries : Entries) (environment : List (String × String)) : α :=
  ((key.inEnvironment environment).or (key.inEntries entries)).getD (key.get default)

end Key

/-- The numbers of settings fit the words they are kept in. -/
structure FitsWords (settings : Settings) : Prop where
  version : settings.version < Nat.pow 2 32
  maxAliasDepth : settings.resolution.maxAliasDepth < Nat.pow 2 64
  parallelThreads : settings.resolution.parallelThreads < Nat.pow 2 64

/-- The defaults of a machine fit if the number of its processors does. -/
theorem fitsWords_defaults {processors : Nat} (hprocessors : processors < Nat.pow 2 64) :
    (defaults processors).FitsWords :=
  ⟨show 1 < Nat.pow 2 32 by decide, show 64 < Nat.pow 2 64 by decide, hprocessors⟩

/-- Defaults say something about every field. -/
theorem FitsWords.bears_defaults {default : Settings} (h : default.FitsWords) {α : Type}
    (key : Key α) :
    ∃ found, (Value.table (Layer.ofDefaults default).entries).Bears key.path found ∧
      key.decoder found = .ok (key.get default) := by
  cases key with
  | version => exact ⟨_, ⟨_, _, rfl, rfl, rfl⟩, if_pos h.version⟩
  | debug => exact ⟨_, ⟨_, _, rfl, rfl, rfl⟩, rfl⟩
  | maxAliasDepth => exact ⟨_, ⟨_, _, rfl, rfl, _, _, rfl, rfl, rfl⟩, if_pos h.maxAliasDepth⟩
  | defaultVisibility =>
    exact ⟨_, ⟨_, _, rfl, rfl, _, _, rfl, rfl, rfl⟩, Decoder.visibility_text _⟩
  | parallelThreads =>
    exact ⟨_, ⟨_, _, rfl, rfl, _, _, rfl, rfl, rfl⟩, if_pos h.parallelThreads⟩
  | format => exact ⟨_, ⟨_, _, rfl, rfl, _, _, rfl, rfl, rfl⟩, Decoder.format_text _⟩
  | showWarnings => exact ⟨_, ⟨_, _, rfl, rfl, _, _, rfl, rfl, rfl⟩, rfl⟩

/-- An environment that fits says at a key only what can be read. -/
theorem Environment.Fits.exists_value {environment : List (String × String)}
    (h : Environment.Fits environment) {α : Type} (key : Key α) {found : Value}
    (hfound : setting? environment key.path = some found) :
    ∃ value, key.decoder found = .ok value := by
  obtain ⟨setter, hsetter, rfl⟩ := Option.map_eq_some_iff.1 hfound
  have hnamed : path? setter.1 = some key.path := of_decide_eq_true (List.find?_some hsetter :)
  have hmem := List.mem_reverse.1 (List.mem_of_find?_eq_some hsetter)
  rcases h setter hmem _ hnamed key with ⟨-, hvalue⟩ | hapart
  · exact hvalue
  · exact absurd List.prefix_rfl hapart.1

theorem Environment.Fits.keepsTo {environment : List (String × String)}
    (h : Environment.Fits environment) {α : Type} (key : Key α) :
    KeepsTo environment key.path :=
  fun setter hsetter named hnamed ↦ (h setter hsetter named hnamed key).imp_left
    fun ⟨heq, _, hvalue⟩ ↦ ⟨heq, key.isSingle_of_decoder hvalue⟩

section Together

variable {default : Settings} {entries : Entries} {environment : List (String × String)}

/-- **At every key the uppermost layer that says anything decides.** The default matters only where
the file spares the key. -/
theorem bears_together {α : Type} (key : Key α)
    (hdefault : (Value.table entries).Spares key.path → default.FitsWords)
    (hdistinct : (Value.table entries).Distinct) (hfits : entries.Fits)
    (henvironment : Environment.Fits environment) :
    ∃ found, (Value.table (entriesOver (entriesOver
        (Layer.ofDefaults default).entries entries)
        (Environment.entries environment))).Bears key.path found ∧
      key.decoder found = .ok (key.layered default entries environment) := by
  have hset := Environment.distinct_entries environment
  have hnamed := Environment.entries_at key.path_ne_nil (henvironment.keepsTo key)
  simp only [← Value.over_table]
  rw [Key.layered, Key.inEnvironment]
  rcases hsetting : Environment.setting? environment key.path with - | found
  · rw [hsetting] at hnamed
    rw [Option.bind_none, Option.none_or, Key.inEntries]
    rcases hfits key with hspares | ⟨found, value, hbears, hvalue⟩
    · obtain ⟨found, hbears, hvalue⟩ := (hdefault hspares).bears_defaults key
      rw [hspares.at?_eq]
      exact ⟨found, hnamed.bears_over hset (hspares.bears_over hdistinct hbears), hvalue⟩
    · rw [hbears.at?_eq, Option.bind_some, hvalue]
      exact ⟨found, hnamed.bears_over hset
        (hbears.over hdistinct (key.isSingle_of_decoder hvalue)), hvalue⟩
  · rw [hsetting] at hnamed
    obtain ⟨value, hvalue⟩ := henvironment.exists_value key hsetting
    rw [Option.bind_some, hvalue]
    exact ⟨found, hnamed.over hset (key.isSingle_of_decoder hvalue), hvalue⟩

/-- What a file says has no key twice. -/
theorem distinct_of_file {file : Option File} (h : File.entries? file = some entries) :
    (Value.table entries).Distinct := by
  obtain ⟨document, hdocument, hentries⟩ := Option.bind_eq_some_iff.1 h
  refine distinct_entriesUnwrapped ?_ hentries
  rcases file with - | file
  · exact Option.some.inj hdocument ▸ Value.distinct_nil
  · obtain ⟨content, -, hread⟩ := Option.bind_eq_some_iff.1 hdocument
    exact Toml.distinct_read hread

/-- Where a file says something, loading decodes the three layers. -/
theorem loadOver_eq {file : Option File} (hfile : File.entries? file = some entries) :
    ∃ blame : Fault → LoadFault, loadOver default file environment =
      (decode default (entriesOver (entriesOver (Layer.ofDefaults default).entries entries)
        (Environment.entries environment))).mapError blame := by
  rcases file with - | ⟨path, content⟩
  · obtain rfl := Option.some.inj hfile
    exact ⟨_, rfl⟩
  · cases content with
    | error reason => cases hfile
    | ok content =>
      have hread : (Toml.read content).bind entriesUnwrapped = some entries := hfile
      refine ⟨fun fault ↦ .unfit fault (Layer.blamed [Layer.ofDefaults default,
        ⟨.file, entries⟩, Layer.ofEnvironment environment] fault.path), ?_⟩
      rw [loadOver]
      dsimp only
      rw [hread]
      rfl

/-- What stands for nothing is refused, whatever the other layers say. -/
theorem loadOver_eq_malformed {file : Option File} {document : Entries}
    (hdocument : File.document? file = some document) (hnone : entriesUnwrapped document = none) :
    loadOver default file environment = .error .malformed := by
  rcases file with - | ⟨path, content⟩
  · obtain rfl := Option.some.inj hdocument
    cases hnone
  · cases content with
    | error reason => cases hdocument
    | ok content =>
      have hread : Toml.read content = some document := hdocument
      rw [loadOver]
      dsimp only
      rw [hread, Option.bind_some, hnone]
      rfl

/-- **Settings load field by field**: from a file that says something that fits, and an environment
that fits. Where the file spares a key, the defaults are to fit. -/
theorem loadOver_eq_ok {file : Option File} (hfile : File.entries? file = some entries)
    (hdefault : ∀ {α : Type} (key : Key α),
      (Value.table entries).Spares key.path → default.FitsWords)
    (hfits : entries.Fits) (henvironment : Environment.Fits environment) :
    ∃ settings, loadOver default file environment = .ok settings ∧
      ∀ {α : Type} (key : Key α), key.get settings = key.layered default entries environment := by
  obtain ⟨settings, hdecode, hfields⟩ := decode_of_bears fun key ↦
    bears_together key (hdefault key) (distinct_of_file hfile) hfits henvironment
  obtain ⟨blame, hload⟩ := loadOver_eq hfile
  refine ⟨settings, ?_, hfields⟩
  rw [hload, hdecode]
  rfl

end Together

end Exposure.Settings
