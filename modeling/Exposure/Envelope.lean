import Exposure.Graph.Fault
import Exposure.Plan.Report

/-!
# Envelopes

Every structured answer comes in one shape, so that scripts can go by `status` and
`exit_code` alone: a status, a code, a message, either data or an account of the error, and
the exit code of the process.
-/

namespace Exposure

/-- How a run of the command ends. -/
inductive ExitCode where
  | success
  /-- Something failed that has no code of its own. -/
  | generalError
  /-- The command line was not understood. -/
  | usageError
  /-- The graph file could not be decoded, or its records do not fit together. -/
  | parseError
  /-- A file could not be read. -/
  | ioError
  /-- The settings are not usable. -/
  | configError
  /-- The graph has no valid plan. -/
  | planInvalid
  deriving DecidableEq, Repr

/-- The number of an exit code. -/
def ExitCode.number : ExitCode → Nat
  | success => 0
  | generalError => 1
  | usageError => 2
  | parseError => 4
  | ioError => 5
  | configError => 6
  | planInvalid => 9

/-- The exit code for what planning has come to. -/
def ExitCode.ofPlanning {ε α : Type} : Except ε α → ExitCode
  | .ok _ => success
  | .error _ => planInvalid

/-- The exit code for a graph that could not be had. -/
def Graph.Fault.exitCode : Graph.Fault → ExitCode
  | fileRead .. => .ioError
  | _ => .parseError

/-- What an envelope says about an error. -/
structure ErrorDetails where
  suggestions : List String
  /-- The problems of a failed run in structured form. -/
  context : Option (List Json)

/-- A structured answer. -/
structure Envelope where
  /-- The word for how things went. -/
  status : String
  code : String
  message : String
  data : Option Json
  error : Option ErrorDetails
  exitCode : ExitCode

namespace Envelope

/-- The answer for a valid plan. -/
def ofReport (message : String) (report : Report) : Envelope :=
  ⟨"success", "OK", message, some report.toJson, none, .success⟩

/-- The message of an answer for a valid plan that says nothing else. -/
def resolvedMessage : String := "Exposure plan resolved"

/-- The heading over the problems of a failed run. -/
def invalidMessage (problems : List Problem) : String :=
  "Exposure plan is invalid (" ++ toString problems.length ++ " error(s))"

/-- The answer for a run that failed: every problem in order, and every suggestion once, where
it first comes up. -/
def ofProblems (problems : List Problem) : Envelope :=
  ⟨"error", Problem.invalidPlanCode, invalidMessage problems, none,
    some ⟨(problems.flatMap (·.suggestions)).eraseDups, some (problems.map (·.toJson))⟩,
    .planInvalid⟩

/-- The answer for a graph that could not be had. -/
def ofFault (fault : Graph.Fault) : Envelope :=
  ⟨"error", fault.code, fault.message, none, some ⟨fault.suggestions, none⟩, fault.exitCode⟩

/-- The structured form of an account of an error. -/
def errorJson (details : ErrorDetails) : Json :=
  .obj (("suggestions", .strings details.suggestions) ::
    (details.context.map fun context ↦ ("context", Json.arr context)).toList)

/-- The envelope as JSON; what it lacks is left out. -/
def toJson (envelope : Envelope) : Json :=
  .obj ([("status", .str envelope.status), ("code", .str envelope.code),
      ("message", .str envelope.message)] ++
    (envelope.data.map fun data ↦ ("data", data)).toList ++
    (envelope.error.map fun details ↦ ("error", errorJson details)).toList ++
    [("exit_code", .num envelope.exitCode.number)])

/-- The envelope as text. -/
def text (envelope : Envelope) : String := envelope.toJson.pretty

end Envelope

end Exposure
