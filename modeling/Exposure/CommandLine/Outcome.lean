import Exposure.CommandLine.Arguments
import Exposure.Document.Reader
import Exposure.Envelope
import Exposure.Plan.Decision
import Exposure.Plan.Display
import Exposure.Settings.Writer
import Exposure.Text.Notice

/-!
# Outcomes

What a command says and how it ends, once everything it needs is known. Structured answers go to
the output as one envelope; otherwise tables and verdicts go to the output, warnings and errors
to the error output.

How an answer is shown and how the command ends are decided apart: the exit code depends on the
graph and on what planning makes of it, and on nothing else.
-/

namespace Exposure.CommandLine

/-- What a command says and how it ends. -/
structure Outcome where
  exitCode : ExitCode
  output : String
  errors : String
  deriving DecidableEq, Repr

namespace Outcome

/-- A text as a line. -/
def asLine (text : String) : String := text ++ "\n"

/-- An outcome that says something on the output. -/
def shows (exitCode : ExitCode) (lines : List String) : Outcome :=
  ⟨exitCode, String.join (lines.map asLine), ""⟩

/-- An outcome that says something on the error output. -/
def complains (exitCode : ExitCode) (lines : List String) : Outcome :=
  ⟨exitCode, "", String.join (lines.map asLine)⟩

/-- An outcome with an envelope on the output. -/
def answers (exitCode : ExitCode) (envelope : Envelope) : Outcome :=
  shows exitCode [envelope.text]

/-- Puts lines in front of what goes to the error output. -/
def after (lines : List String) (outcome : Outcome) : Outcome :=
  { outcome with errors := String.join (lines.map asLine) ++ outcome.errors }

/-- The outcome for a graph that could not be had. -/
def ofFault (format : Settings.Format) (fault : Graph.Fault) : Outcome :=
  match format with
  | .json => answers fault.exitCode (.ofFault fault)
  | .table =>
    complains fault.exitCode
      (Text.failure fault.message :: fault.suggestions.map fun advice ↦ "  " ++ advice)

/-- The outcome for a graph without a plan. -/
def ofProblems (exitCode : ExitCode) (format : Settings.Format) (problems : List Problem) :
    Outcome :=
  match format with
  | .json => answers exitCode (.ofProblems problems)
  | .table =>
    complains exitCode
      [Text.failure (Envelope.invalidMessage problems), (Problem.table problems).render]

/-- The tables of a plan; imports and relocations are shown where there are any. -/
def planTables (report : Report) : List String :=
  [report.planTable.render] ++
    (if report.modules.any fun module ↦ !module.imports.isEmpty then
      [report.importTable.render] else []) ++
    (if report.relocations.isEmpty then [] else [report.relocationLines])

/-- The verdict on a valid plan. -/
def verdict (report : Report) : String :=
  Text.success ("Plan is valid: " ++ toString report.entries.length ++ " entries, " ++
    toString report.warnings.length ++ " warning(s)")

/-- What is said about warnings. -/
def warningLines (warnings : List Warning) : List String :=
  if warnings.isEmpty then []
  else [Text.caution (toString warnings.length ++ " warning(s)"), (Warning.table warnings).render]

/-- The message of an envelope with a plan. -/
def planMessage (report : Report) : String :=
  "Resolved " ++ toString report.entries.length ++ " exposure entries"

/-- The outcome for a graph with a plan; `onlyVerdict` leaves the tables out. -/
def ofReport (exitCode : ExitCode) (shown : Settings.Output) (onlyVerdict : Bool)
    (report : Report) : Outcome :=
  match shown.format with
  | .json => answers exitCode (.ofReport (planMessage report) report)
  | .table =>
    let said := shows exitCode (if onlyVerdict then [verdict report] else planTables report)
    said.after (if shown.showWarnings then warningLines report.warnings else [])

/-- The outcome of planning the graph that a file holds. -/
def ofGraph (settings : Settings) (onlyVerdict : Bool) (graph : Except Graph.Fault Graph) :
    Outcome :=
  match graph with
  | .error fault => ofFault settings.output.format fault
  | .ok graph =>
    let run := Run.ofGraph graph settings.resolution.maxAliasDepth settings.exposesByDefault
    let exitCode := ExitCode.ofPlanning run.plan
    match run.plan with
    | .error problems => ofProblems exitCode settings.output.format problems
    | .ok plan => ofReport exitCode settings.output onlyVerdict (.ofPlan graph plan)

/-- The outcome of showing settings. -/
def ofSettings (settings : Settings) : Outcome :=
  match settings.write? with
  | some text => shows .success ["Current Configuration:", "".pushn '=' 50, text]
  | none =>
    complains .generalError
      [Text.failure ("failed to render settings: " ++ Settings.unwritableReason)]

/-- What is said of settings that are already there. -/
def settingsExist : String := "Configuration file already exists. Use --force to overwrite"

/-- The outcome of writing a settings file: its path, or the reason why there is none. -/
def ofCreation : Except String String → Outcome
  | .ok path =>
    shows .success
      ["Created configuration file at: " ++ path, "Edit this file to customize your settings."]
  | .error reason => complains .configError [Text.failure reason]

/-- The outcome of a request for the version. -/
def version : Outcome := shows .success ["bindplan 0.3.1"]

/-- How the command is used. -/
def usage : String :=
  "Usage: bindplan [-c PATH] [-v] init [-f] | plan GRAPH [-f FORMAT] [-t THREADS] | " ++
    "check GRAPH | config"

/-- The outcome of a request for help. -/
def help : Outcome := shows .success [usage]

/-- The outcome of arguments that do not fit. -/
def misuse : Outcome := complains .usageError [usage]

end Outcome

end Exposure.CommandLine
