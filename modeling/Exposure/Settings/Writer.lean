import Exposure.Settings.Basic

/-!
# Writing settings

Settings are written as TOML: the top level first, then a table for each section. TOML has whole
numbers below `2 ^ 63` only, so settings with larger ones have no text.
-/

namespace Exposure.Settings

/-- A flag as TOML. -/
def flagText (value : Bool) : String := if value then "true" else "false"

/-- A line that sets a key. -/
def keyLine (key value : String) : String := key ++ " = " ++ value ++ "\n"

/-- A word in quotes; the words of settings need no escapes. -/
def wordText (word : String) : String := "\"" ++ word ++ "\""

/-- The settings as TOML. -/
def write (settings : Settings) : String :=
  keyLine "version" (toString settings.version) ++
  keyLine "debug" (flagText settings.debug) ++
  "\n[resolution]\n" ++
  keyLine "max_alias_depth" (toString settings.resolution.maxAliasDepth) ++
  keyLine "default_visibility" (wordText settings.resolution.defaultVisibility.text) ++
  keyLine "parallel_threads" (toString settings.resolution.parallelThreads) ++
  "\n[output]\n" ++
  keyLine "format" (wordText settings.output.format.text) ++
  keyLine "show_warnings" (flagText settings.output.showWarnings)

/-- Whether TOML has all numbers of the settings. -/
def isWritable (settings : Settings) : Bool :=
  settings.resolution.maxAliasDepth < Nat.pow 2 63 &&
    settings.resolution.parallelThreads < Nat.pow 2 63

/-- Why settings cannot be written that have larger numbers. -/
def unwritableReason : String := "out-of-range value for u64 type"

/-- The settings as TOML, if they can be written. -/
def write? (settings : Settings) : Option String :=
  if settings.isWritable then some settings.write else none

/-- A settings file to start from: the defaults with comments. The number of threads is left to
the number of processors. -/
def template (processors : Nat) : String :=
  "# bindplan configuration\n\n" ++
  "# Version of the configuration schema\nversion = 1\n\n" ++
  "# Global debug mode (verbose logging)\ndebug = false\n\n" ++
  "[resolution]\n" ++
  "# Longest alias chain accepted before reporting AliasChainTooLong\n" ++
  "max_alias_depth = " ++ toString defaultMaxAliasDepth ++ "\n\n" ++
  "# Visibility of declarations without any visibility annotation: " ++
  "\"hidden\" or \"visible\"\ndefault_visibility = \"hidden\"\n\n" ++
  "# Threads used for annotation extraction and alias resolution " ++
  "(defaults to CPU count)\n# parallel_threads = " ++ toString processors ++ "\n\n" ++
  "[output]\n# \"table\" or \"json\"\nformat = \"table\"\n\n" ++
  "# Print warnings (import cycles, self imports) after the plan\nshow_warnings = true\n"

end Exposure.Settings
