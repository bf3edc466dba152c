import Exposure.Decimal.Layout
import Exposure.Settings.Basic
import Exposure.Settings.Value
import Exposure.Text.Quoted

/-!
# Settings from values

A table of values becomes settings key by key: what a table lacks has its default, and keys that
mean nothing are ignored. A section may also be written as a list of its values in order, which
may stop early or go on.

The first value that does not fit decides the fault. Keys are taken in alphabetical order, the
values of a list in theirs.
-/

namespace Exposure.Settings

/-- Why a value does not fit. -/
inductive Cause where
  | wrongType (found : Value) (expected : String)
  /-- A number outside the range. -/
  | wrongValue (found : Value) (expected : String)
  /-- A word that is none of the expected ones. -/
  | unknownVariant (found : String) (expected : List String)

/-- A value that does not fit, and the path of keys that leads to it. -/
structure Fault where
  cause : Cause
  path : List String

/-- How a found value is called. -/
def Value.name : Value → String
  | text value => "string " ++ Text.quoted value
  | letter value => "string " ++ Text.quoted (String.singleton value)
  | bool true => "bool true"
  | bool false => "bool false"
  | integer value => "signed int `" ++ toString value ++ "`"
  | count value => "unsigned int `" ++ toString value ++ "`"
  | float value => "float `" ++ Decimal.Layout.full.render value ++ "`"
  | list _ => "sequence"
  | table _ => "map"

/-- Words to choose from. -/
def choice (words : List String) : String :=
  " or ".intercalate (words.map fun word ↦ "`" ++ word ++ "`")

/-- The wording of a cause. -/
def Cause.message : Cause → String
  | wrongType found expected => "invalid type: found " ++ found.name ++ ", expected " ++ expected
  | wrongValue found expected => "invalid value " ++ found.name ++ ", expected " ++ expected
  | unknownVariant found expected =>
    "unknown variant: found `" ++ found ++ "`, expected `" ++ choice expected ++ "`"

/-- A fault seen from a table above. -/
def Fault.under (key : String) (fault : Fault) : Fault := { fault with path := key :: fault.path }

/-- What values of a kind become. -/
abbrev Decoder (α : Type) := Value → Except Fault α

namespace Decoder

/-- A fault at the value itself. -/
def fail {α : Type} (cause : Cause) : Except Fault α := .error ⟨cause, []⟩

/-- A flag. -/
def flag : Decoder Bool
  | .bool value => .ok value
  | found => fail (.wrongType found "a boolean")

/-- A whole number from zero below a limit. -/
def number (limit : Nat) (expected : String) : Decoder Nat
  | .count value =>
    if value < limit then .ok value else fail (.wrongValue (.count value) expected)
  | .integer value =>
    if 0 ≤ value ∧ value < limit then .ok value.toNat
    else fail (.wrongValue (.integer value) expected)
  | found => fail (.wrongType found expected)

/-- A number of 32 bits. -/
def number32 : Decoder Nat := number (Nat.pow 2 32) "u32"

/-- A number of 64 bits. -/
def number64 : Decoder Nat := number (Nat.pow 2 64) "usize"

/-- The least key of a table, with its value. -/
def leastEntry? : List (String × Value) → Option (String × Value)
  | [] => none
  | entry :: rest =>
    match leastEntry? rest with
    | some other => if other.1 < entry.1 then some other else some entry
    | none => some entry

/-- One of several words. A table is taken for its least key with what belongs to it, and nothing
may belong to a word. A single character is no word. -/
def word {α : Type} (expected : String) (all : List α) (text : α → String) : Decoder α
  | .text found =>
    match all.find? fun value ↦ text value = found with
    | some value => .ok value
    | none => fail (.unknownVariant found (all.map text))
  | .table entries =>
    match leastEntry? entries with
    | none => fail (.wrongType (.table entries) "enum")
    | some (found, value) =>
      if all.any fun value ↦ text value = found then
        .error ⟨.wrongType value "unit", [found]⟩
      else .error ⟨.unknownVariant found (all.map text), [found]⟩
  | found => fail (.wrongType found expected)

/-- What is under a key of a table, or a default. -/
def entryOr {α : Type} (default : α) (decode : Decoder α) (entries : Entries) (key : String) :
    Except Fault α :=
  match entries.get? key with
  | none => .ok default
  | some value => (decode value).mapError (·.under key)

/-- What is at a place of a list, or a default. -/
def itemOr {α : Type} (default : α) (decode : Decoder α) (items : List Value) (index : Nat) :
    Except Fault α :=
  match items[index]? with
  | none => .ok default
  | some value => (decode value).mapError (·.under (toString index))

/-- A default visibility. -/
def visibility : Decoder DefaultVisibility :=
  word "enum DefaultVisibility" DefaultVisibility.all DefaultVisibility.text

/-- A format. -/
def format : Decoder Format := word "enum OutputFormat" Format.all Format.text

/-- The settings of planning. -/
def resolution (default : Resolution) : Decoder Resolution
  | .table entries => do
    let visibility ← entryOr default.defaultVisibility visibility entries "default_visibility"
    let depth ← entryOr default.maxAliasDepth number64 entries "max_alias_depth"
    let threads ← entryOr default.parallelThreads number64 entries "parallel_threads"
    return ⟨depth, visibility, threads⟩
  | .list items => do
    let depth ← itemOr default.maxAliasDepth number64 items 0
    let visibility ← itemOr default.defaultVisibility visibility items 1
    let threads ← itemOr default.parallelThreads number64 items 2
    return ⟨depth, visibility, threads⟩
  | found => fail (.wrongType found "struct ResolutionConfig")

/-- The settings of output. -/
def output (default : Output) : Decoder Output
  | .table entries => do
    let format ← entryOr default.format format entries "format"
    let showWarnings ← entryOr default.showWarnings flag entries "show_warnings"
    return ⟨format, showWarnings⟩
  | .list items => do
    let format ← itemOr default.format format items 0
    let showWarnings ← itemOr default.showWarnings flag items 1
    return ⟨format, showWarnings⟩
  | found => fail (.wrongType found "struct OutputConfig")

end Decoder

/-- The settings that a table of values says, with defaults for what it lacks. -/
def decode (default : Settings) (entries : Entries) : Except Fault Settings := do
  let debug ← Decoder.entryOr default.debug Decoder.flag entries "debug"
  let output ← Decoder.entryOr default.output (Decoder.output default.output) entries "output"
  let resolution ←
    Decoder.entryOr default.resolution (Decoder.resolution default.resolution) entries
      "resolution"
  let version ← Decoder.entryOr default.version Decoder.number32 entries "version"
  return ⟨version, debug, resolution, output⟩

end Exposure.Settings
