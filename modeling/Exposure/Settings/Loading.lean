import Exposure.Settings.Decoding
import Exposure.Settings.Environment
import Exposure.Settings.Wrapped
import Exposure.Toml.Reader

/-!
# Loading settings

Settings come from three layers: the defaults, a TOML file if there is one, and the environment.
The layers are laid over each other in this order and the result is decoded once, so every key is
decided by the last layer that has it.

A value that does not fit is blamed on that layer.
-/

namespace Exposure.Settings

/-- Where a layer comes from. -/
inductive Source where
  | defaults
  | file
  | environment
  deriving DecidableEq, Repr

/-- A layer of settings. -/
structure Layer where
  source : Source
  entries : Entries

/-- The layer of default settings. -/
def Layer.ofDefaults (settings : Settings) : Layer where
  source := .defaults
  entries :=
    [("version", .count settings.version), ("debug", .bool settings.debug),
      ("resolution", .table
        [("max_alias_depth", .count settings.resolution.maxAliasDepth),
          ("default_visibility", .text settings.resolution.defaultVisibility.text),
          ("parallel_threads", .count settings.resolution.parallelThreads)]),
      ("output", .table
        [("format", .text settings.output.format.text),
          ("show_warnings", .bool settings.output.showWarnings)])]

/-- The layer of the environment. -/
def Layer.ofEnvironment (environment : List (String × String)) : Layer :=
  ⟨.environment, Environment.entries environment⟩

/-- What layers come to, the lowest first. -/
def Layer.together (layers : List Layer) : Entries :=
  layers.foldl (fun below layer ↦ entriesOver below layer.entries) []

/-- The highest layer with something under a path. -/
def Layer.blamed (layers : List Layer) (path : List String) : Source :=
  let bearer := layers.reverse.find? fun layer ↦
    ((Value.table layer.entries).at? path).isSome
  (bearer.map (·.source)).getD .defaults

/-- A settings file: where it is, and its text unless it could not be read for the reason
given. -/
structure File where
  path : String
  content : Except String String

/-- Why there are no settings. -/
inductive LoadFault where
  /-- The file could not be read. -/
  | unreadable (reason : String)
  /-- The file is no TOML, or has a key that is refused. -/
  | malformed
  /-- A value does not fit; the source says where it was set. -/
  | unfit (fault : Fault) (source : Source)

/-- The settings that the settings file, if there is one, and the variables of the environment come
to over default settings. -/
def loadOver (default : Settings) (file : Option File) (environment : List (String × String)) :
    Except LoadFault Settings := do
  let fileLayers ← match file with
    | none => .ok []
    | some file =>
      match file.content with
      | .error reason => .error (.unreadable reason)
      | .ok content =>
        match (Toml.read content).bind entriesUnwrapped with
        | none => .error .malformed
        | some entries => .ok [(⟨.file, entries⟩ : Layer)]
  let layers := [Layer.ofDefaults default] ++ fileLayers ++ [Layer.ofEnvironment environment]
  (decode default (Layer.together layers)).mapError fun fault ↦
    .unfit fault (Layer.blamed layers fault.path)

/-- The settings of a machine with so many processors, given the settings file, if there is one,
and the variables of the environment. -/
def load (processors : Nat) : Option File → List (String × String) → Except LoadFault Settings :=
  loadOver (defaults processors)

/-! ### Wording -/

/-- The name of a key in messages. In the environment it is spelt as a variable spells it. -/
def Source.keyName (path : List String) : Source → String
  | defaults | file => ".".intercalate ("default" :: path)
  | environment => ".".intercalate (path.map String.toUpper)

/-- What a source is called; the path of the file is as it is to be shown. -/
def Source.name (filePath : String) : Source → String
  | defaults => "defaults"
  | file => filePath ++ " TOML file"
  | environment => "`BP_` environment variable(s)"

/-- The wording of a fault, given how the path of the file is shown. -/
def LoadFault.message (filePath : String) : LoadFault → String
  | unreadable reason => reason ++ "\n in " ++ Source.file.name filePath
  | malformed => "invalid TOML in " ++ Source.file.name filePath
  | unfit fault source =>
    fault.cause.message ++ " for key " ++ Text.quoted (source.keyName fault.path) ++ " in " ++
      source.name filePath

end Exposure.Settings
