import Exposure.CommandLine.Outcome
import Exposure.Files.Access
import Exposure.Files.Path
import Exposure.Settings.Loading

/-!
# The command

The command reads its arguments, loads the settings, and carries out what is asked for. It does
so on any access to files; all that is decided is decided by `Outcome` and `Settings.load`.

Without a settings file on the command line the file of the nearest directory is used that has a
place for settings, and settings that do not load are replaced by the defaults. A file on the
command line is looked for in the working directory and then in those above it; if it does not
load the command fails.
-/

namespace Exposure.CommandLine

open Files

/-- Where the command runs. -/
structure Machine where
  /-- The absolute path of the working directory. -/
  directory : String
  /-- The variables of the environment, each name with its value. -/
  environment : List (String × String)
  processors : Nat
  deriving DecidableEq, Repr

/-- The name of the directory for settings. -/
def settingsDirectory : String := ".bindplan"

/-- The path of the settings file in the directory for settings. -/
def settingsPath : String := settingsDirectory ++ "/settings.toml"

namespace Command

variable {m : Type → Type} [Monad m]

/-- The first path that passes a test. -/
def firstThat (test : String → m Bool) : List String → m (Option String)
  | [] => return none
  | path :: rest => do
    if ← test path then return some path
    firstThat test rest

/-- The directories from the working directory up to the root. -/
def directories (machine : Machine) : List String :=
  Path.ancestors (Path.parts machine.directory)

/-- The settings file that applies: the one asked for, or that of the nearest directory with a
place for settings. -/
def settingsFile (access : Access m) (machine : Machine) (asked : Option String) :
    m (Option String) :=
  match asked with
  | some path =>
    let candidates :=
      if Path.isAbsolute path then [path]
      else (directories machine).map fun directory ↦ Path.join directory path
    firstThat access.isFile candidates
  | none => do
    let places := (directories machine).map fun directory ↦ Path.join directory settingsDirectory
    match ← firstThat access.isDirectory places with
    | none => return none
    | some place =>
      let path := Path.join place "settings.toml"
      if ← access.isFile path then return some path else return none

/-- Loads the settings; a fault is worded for the user. -/
def loadSettings (access : Access m) (machine : Machine) (asked : Option String) :
    m (Except String Settings) := do
  let path ← settingsFile access machine asked
  let file ← match path with
    | none => pure none
    | some path => do
      let content ← access.read path
      pure (some (⟨path, content.mapError (·.reason)⟩ : Settings.File))
  let shownPath := Path.shown machine.directory (path.getD settingsPath)
  return (Settings.load machine.processors file machine.environment).mapError fun fault ↦
    fault.message shownPath

/-- Writes a settings file to start from into the working directory: its path, or the reason why
it cannot be written. -/
def createSettings (access : Access m) (machine : Machine) (force : Bool) :
    m (Except String String) := do
  let isThere := (← access.isFile settingsPath) || (← access.isDirectory settingsPath)
  if !force && isThere then return .error Outcome.settingsExist
  match ← access.makeDirectory settingsDirectory with
  | .error failure => return .error failure.reason
  | .ok () =>
    match ← access.write settingsPath (Settings.template machine.processors) with
    | .error failure => return .error failure.reason
    | .ok () => return .ok (Path.join machine.directory settingsPath)

/-- The graph of a file, from what comes of reading it. -/
def graphOf (path : String) : Except Failure String → Except Graph.Fault Graph
  | .error failure => .error (.fileRead path failure.reason)
  | .ok source => Graph.ofSource path source

/-- Plans the graph in a file. -/
def plan (access : Access m) (settings : Settings) (onlyVerdict : Bool) (path : String) :
    m Outcome := do
  return Outcome.ofGraph settings onlyVerdict (graphOf path (← access.read path))

/-- Carries out an action under settings. -/
def act (access : Access m) (machine : Machine) (settings : Settings) : Action → m Outcome
  | .init force => return Outcome.ofCreation (← createSettings access machine force)
  | .config => return Outcome.ofSettings settings
  | .check graph => plan access settings true graph
  | .plan graph format threads =>
    let settings :=
      { settings with
        output.format := format.getD settings.output.format
        resolution.parallelThreads := threads.getD settings.resolution.parallelThreads }
    plan access settings false graph

/-- Carries out a request. -/
def fulfil (access : Access m) (machine : Machine) (request : Request) : m Outcome := do
  match ← loadSettings access machine request.settingsPath, request.settingsPath with
  | .ok settings, _ => act access machine settings request.action
  | .error reason, some path =>
    return Outcome.complains .configError
      [Text.failure ("Configuration error loading from " ++ path ++ ": " ++ reason)]
  | .error reason, none =>
    let outcome ← act access machine (Settings.defaults machine.processors) request.action
    return outcome.after ["Configuration error: " ++ reason, "Using default configuration."]

/-- Runs the command with arguments. -/
def run (access : Access m) (machine : Machine) (arguments : List String) : m Outcome :=
  match read arguments with
  | .request request => fulfil access machine request
  | .version => return Outcome.version
  | .help => return Outcome.help
  | .misuse => return Outcome.misuse

end Command

end Exposure.CommandLine
