/-!
# Settings

What a user can set, in two sections beside the top level, and the defaults. The number of
threads says how a run is carried out and never what it comes to; its default is the number of
processors.
-/

namespace Exposure

namespace Settings

/-- Whether declarations are exposed that nothing says anything about. -/
inductive DefaultVisibility where
  | hidden
  | visible
  deriving DecidableEq, Repr

/-- How a default visibility is written. -/
def DefaultVisibility.text : DefaultVisibility → String
  | hidden => "hidden"
  | visible => "visible"

/-- The default visibilities. -/
def DefaultVisibility.all : List DefaultVisibility := [hidden, visible]

/-- How answers are shown. -/
inductive Format where
  | table
  | json
  deriving DecidableEq, Repr

/-- How a format is written. -/
def Format.text : Format → String
  | table => "table"
  | json => "json"

/-- The formats. -/
def Format.all : List Format := [table, json]

/-- Settings of planning. -/
structure Resolution where
  /-- The most aliases in a chain. -/
  maxAliasDepth : Nat
  defaultVisibility : DefaultVisibility
  parallelThreads : Nat
  deriving DecidableEq, Repr

/-- Settings of output. -/
structure Output where
  format : Format
  showWarnings : Bool
  deriving DecidableEq, Repr

end Settings

/-- All settings. -/
structure Settings where
  version : Nat
  debug : Bool
  resolution : Settings.Resolution
  output : Settings.Output
  deriving DecidableEq, Repr

namespace Settings

/-- The most aliases in a chain where nothing else is set. -/
def defaultMaxAliasDepth : Nat := 64

/-- The settings of a machine with so many processors where nothing is set. -/
def defaults (processors : Nat) : Settings where
  version := 1
  debug := false
  resolution := ⟨defaultMaxAliasDepth, .hidden, processors⟩
  output := ⟨.table, true⟩

/-- Whether a run with these settings exposes what nothing says anything about. -/
def exposesByDefault (settings : Settings) : Bool :=
  settings.resolution.defaultVisibility = .visible

end Settings

end Exposure
