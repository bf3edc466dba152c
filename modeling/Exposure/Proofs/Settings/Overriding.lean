import Exposure.Proofs.Settings.Fields
import Exposure.Proofs.Toml.Written

/-!
# Layers override field by field

Every field of settings comes from the environment if that sets it, else from the file if that has
it, else from the defaults, whatever the layers say about other fields
(`load_field_by_field`). So to set or to remove one key in one layer changes at most its field.

A file may have any further keys, with one exception that is meant: below the top level two keys
are reserved. A table with the content key stands for the value under it, so what a file says is
what its document stands for; and a document with the identity key there is refused, even if all
else in it fits (`refused_for_identityKey`).
-/

namespace Exposure.Settings

open Toml (ReadsAs)

section Frame

variable {before after : List (String × String)} {setter : String × String}

/-- What variables for other paths set does not matter to a path. -/
theorem Environment.setting?_remove {path : List String} (h : path? setter.1 ≠ some path) :
    setting? (before ++ after) path = setting? (before ++ setter :: after) path := by
  simp only [setting?, List.reverse_append, List.reverse_cons, List.append_assoc,
    List.singleton_append, List.find?_append, List.find?_cons, decide_eq_false h]

theorem Environment.Fits.remove (h : Environment.Fits (before ++ setter :: after)) :
    Environment.Fits (before ++ after) := fun other hother ↦ by
  refine h other ?_
  rw [List.mem_append, List.mem_cons]
  exact (List.mem_append.1 hother).imp_right .inr

end Frame

/-- **Layers override field by field.** Of a document only this is asked: no table below its top
level has the identity key, and what it stands for fits, whichever keys it has and in whatever
order. Of two variables for one key the later counts. Every document with the identity key in a
table below its top level is refused, whatever else is in it and whatever the environment is. -/
theorem load_field_by_field {processors : Nat} (hprocessors : processors < Nat.pow 2 64)
    {file : Option File} {document : Entries} {environment : List (String × String)}
    (hdocument : File.document? file = some document)
    (hallowed : document.LacksBelow identityKey)
    (hfits : ∀ said, entriesUnwrapped document = some said → said.Fits)
    (henvironment : Environment.Fits environment) :
    (∀ refused unheeded, File.document? refused = some unheeded →
      ¬ unheeded.LacksBelow identityKey →
        ∀ machine setters, load machine refused setters = .error .malformed) ∧
    ∃ said settings, entriesUnwrapped document = some said ∧
      (document.LacksBelow contentKey → said = document) ∧
      load processors file environment = .ok settings ∧
      (∀ {α : Type} (key : Key α), key.get settings =
        ((key.inEnvironment environment).or (key.inEntries said)).getD
          (key.get (defaults processors))) ∧
      -- One variable less changes at most the field that it names.
      (∀ before setter after, environment = before ++ setter :: after →
        ∃ others, load processors file (before ++ after) = .ok others ∧
          ∀ {α : Type} (key : Key α), Environment.path? setter.1 ≠ some key.path →
            key.get others = key.get settings) ∧
      -- Another document changes at most the fields about which it says something else.
      (∀ changed others, File.entries? changed = some others → others.Fits →
        ∃ altered, load processors changed environment = .ok altered ∧
          ∀ {α : Type} (key : Key α), key.inEntries others = key.inEntries said →
            key.get altered = key.get settings) := by
  obtain ⟨said, hsaid⟩ := Option.isSome_iff_exists.1 (isSome_entriesUnwrapped_iff.2 hallowed)
  have hfile : File.entries? file = some said := by
    rw [File.entries?, hdocument]
    exact hsaid
  have hdefault : (defaults processors).FitsWords := fitsWords_defaults hprocessors
  obtain ⟨settings, hload, hfields⟩ :=
    loadOver_eq_ok hfile (fun _ _ ↦ hdefault) (hfits said hsaid) henvironment
  refine ⟨fun refused unheeded hrefused hkey machine setters ↦ ?_, said, settings, hsaid,
    fun hcontent ↦ ?_, hload, hfields, ?_, ?_⟩
  · rw [← isSome_entriesUnwrapped_iff, Option.not_isSome_iff_eq_none] at hkey
    exact loadOver_eq_malformed hrefused hkey
  · exact Option.some.inj (hsaid.symm.trans (entriesUnwrapped_eq_self hallowed hcontent))
  · rintro before setter after rfl
    obtain ⟨others, hothers, hfields'⟩ :=
      loadOver_eq_ok hfile (fun _ _ ↦ hdefault) (hfits said hsaid) henvironment.remove
    refine ⟨others, hothers, fun key hnamed ↦ ?_⟩
    rw [hfields' key, hfields key, Key.layered, Key.inEnvironment,
      Environment.setting?_remove hnamed]
    rfl
  · intro changed others hothers hfits'
    obtain ⟨altered, haltered, hfields'⟩ :=
      loadOver_eq_ok hothers (fun _ _ ↦ hdefault) hfits' henvironment
    refine ⟨altered, haltered, fun key hsame ↦ ?_⟩
    rw [hfields' key, hfields key, Key.layered, hsame]
    rfl

/-- A file that gives a section in part, and a further key. -/
def sampleFile : File := ⟨"settings.toml", .ok "note = true\n[output]\nshow_warnings = false\n"⟩

/-- What the sample file says. -/
def sampleDocument : Entries :=
  [("note", .bool true), ("output", .table [("show_warnings", .bool false)])]

/-- Variables in mixed case, one for the other key of the section, one that sets nothing. -/
def sampleEnvironment : List (String × String) :=
  [("bp_Output__FORMAT", "json"), ("Bp_VERSION", "2"), ("HOME", "/root")]

theorem read_sample :
    Toml.read "note = true\n[output]\nshow_warnings = false\n" = some sampleDocument := by
  have hnote : ReadsAs "note = true\n".toList (.assignment ⟨[], "note", .bool true⟩) :=
    Toml.readsAs_assignment (by decide) (Toml.valueReadsAs_flag true) rfl
  have houtput : ReadsAs "[output]\n".toList (.header (.table [] "output")) :=
    Toml.readsAs_header (by decide) rfl
  have hwarnings : ReadsAs "show_warnings = false\n".toList
      (.assignment ⟨[], "show_warnings", .bool false⟩) :=
    Toml.readsAs_assignment (by decide) (Toml.valueReadsAs_flag false) rfl
  rw [Toml.read_written (.cons hnote <| .cons houtput <| .cons hwarnings .nil) rfl]
  rfl

theorem document?_sampleFile : File.document? (some sampleFile) = some sampleDocument :=
  read_sample

theorem sampleDocument_lacks {key : String} (h : "show_warnings" ≠ key) :
    sampleDocument.LacksBelow key := by
  rw [sampleDocument, Entries.LacksBelow, List.forall_mem_cons, List.forall_mem_singleton]
  refine ⟨.single rfl, .table ?_ (List.forall_mem_singleton.2 (.single rfl))⟩
  rw [Entries.get?, if_neg h]
  rfl

theorem entriesUnwrapped_sampleDocument :
    entriesUnwrapped sampleDocument = some sampleDocument :=
  entriesUnwrapped_eq_self (sampleDocument_lacks (by decide)) (sampleDocument_lacks (by decide))

theorem sampleDocument_fits : sampleDocument.Fits := by
  intro α key
  cases key with
  | showWarnings => exact .inr ⟨.bool false, false, ⟨_, _, rfl, rfl, _, _, rfl, rfl, rfl⟩, rfl⟩
  | _ => exact .inl (by simp [sampleDocument, Key.path, Value.Spares, Entries.get?])

theorem path?_format : Environment.path? "bp_Output__FORMAT" = some ["output", "format"] := by
  decide +kernel

theorem path?_version : Environment.path? "Bp_VERSION" = some ["version"] := by decide +kernel

theorem path?_home : Environment.path? "HOME" = none := by decide +kernel

theorem value_json : Environment.value "json" = .text "json" := rfl

theorem sampleEnvironment_fits : Environment.Fits sampleEnvironment := by
  intro setter hsetter named hnamed α key
  simp only [sampleEnvironment, List.mem_cons, List.not_mem_nil, or_false] at hsetter
  rcases hsetter with rfl | rfl | rfl
  · obtain rfl : ["output", "format"] = named := Option.some.inj (path?_format.symm.trans hnamed)
    cases key with
    | format => exact .inl ⟨rfl, .json, by rw [value_json]; rfl⟩
    | _ => exact .inr ⟨by decide, by decide⟩
  · obtain rfl : ["version"] = named := Option.some.inj (path?_version.symm.trans hnamed)
    cases key with
    | version => exact .inl ⟨rfl, 2, rfl⟩
    | _ => exact .inr ⟨by decide, by decide⟩
  · cases path?_home.symm.trans hnamed

theorem setting?_sampleEnvironment (path : List String) :
    Environment.setting? sampleEnvironment path =
      if ["version"] = path then some (.count 2)
      else if ["output", "format"] = path then some (.text "json")
      else none := by
  have hnone : Environment.setting? [] path = none := rfl
  rw [sampleEnvironment, ← List.nil_append [_, _, _], List.append_cons, List.append_cons,
    List.append_cons, List.append_nil]
  simp only [Environment.setting?_concat, path?_format, path?_version, path?_home, value_json,
    hnone, Option.some.injEq, reduceCtorEq, if_false]
  rfl

/-- A section comes in part from the file, in part from a variable, and nothing else changes. -/
theorem load_sample :
    load 8 (some sampleFile) sampleEnvironment =
      .ok ⟨2, false, ⟨64, .hidden, 8⟩, ⟨.json, false⟩⟩ := by
  obtain ⟨-, said, settings, hsaid, -, hload, hfields, -⟩ := load_field_by_field
    (show 8 < Nat.pow 2 64 by decide) document?_sampleFile (sampleDocument_lacks (by decide))
    (fun said hsaid ↦
      Option.some.inj (entriesUnwrapped_sampleDocument.symm.trans hsaid) ▸ sampleDocument_fits)
    sampleEnvironment_fits
  obtain rfl := Option.some.inj (entriesUnwrapped_sampleDocument.symm.trans hsaid)
  rw [hload]
  refine congrArg Except.ok (Key.settings_ext fun key ↦ ?_)
  rw [hfields key, Key.inEnvironment, setting?_sampleEnvironment]
  cases key <;> rfl

/-- All that this document has fits, and yet it is refused for one further key. -/
theorem refused_for_identityKey :
    Toml.read "[resolution]\n___figment_value_id = 1\n" =
        some [("resolution", .table [("___figment_value_id", .integer 1)])] ∧
      Entries.Fits [("resolution", .table [("___figment_value_id", .integer 1)])] ∧
      Environment.Fits [] ∧
      load 8 (some ⟨"settings.toml", .ok "[resolution]\n___figment_value_id = 1\n"⟩) [] =
        .error .malformed := by
  have hresolution : ReadsAs "[resolution]\n".toList (.header (.table [] "resolution")) :=
    Toml.readsAs_header (by decide) rfl
  have hidentity : ReadsAs "___figment_value_id = 1\n".toList
      (.assignment ⟨[], "___figment_value_id", .integer 1⟩) :=
    Toml.readsAs_assignment (by decide)
      (Toml.valueReadsAs_number (show 1 < Nat.pow 2 63 by decide)) rfl
  have hread : Toml.read "[resolution]\n___figment_value_id = 1\n" =
      some [("resolution", .table [("___figment_value_id", .integer 1)])] := by
    rw [Toml.read_written (.cons hresolution <| .cons hidentity .nil) rfl]
    rfl
  refine ⟨hread, fun key ↦ .inl ?_, nofun, ?_⟩
  · cases key <;> simp [Key.path, Value.Spares, Entries.get?]
  · show loadOver _ _ _ = _
    rw [loadOver]
    dsimp only
    rw [hread]
    rfl

end Exposure.Settings
