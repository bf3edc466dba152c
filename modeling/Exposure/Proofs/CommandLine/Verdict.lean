import Exposure.CommandLine.Command
import Exposure.Files.Tree
import Exposure.Proofs.Document.Acceptance

/-!
# What the command comes to, however it is shown

The exit code of planning the graph of a file is decided by what reading the file comes to, by the
limit on aliases and by the default visibility (`CommandLine.Outcome.exitCode_ofGraph`). It is
found apart from what is shown. So what is shown has to agree with it: a structured answer
**speaks for** an exit code (`Envelope.SpeaksFor`) if it names it and its status, its data and its
account of an error are those that go with it, and each of the three envelopes speaks for the exit
code of the outcome that it is shown in.

The command itself, which finds its settings and reads the file, leaves the files as they are
(`Files.Tree.Keeps`). What it comes to is the outcome for the graph of the file, on a tree of files
as on any other access to them (`CommandLine.Command.exists_run_eq`).

All of it is stated in `CommandLine.Command.verdict_whatever_is_shown`.
-/

namespace Exposure

open Files

/-! ### Structured answers -/

namespace Envelope

section Fields

variable (envelope : Envelope)

end Fields

end Envelope

/-! ### Files -/

namespace Files.Tree

/-- An action that leaves the files as they are. -/
def Keeps {α : Type} (action : StateM Tree α) : Prop := ∀ tree, (action.run tree).2 = tree

theorem Keeps.bind {α β : Type} {action : StateM Tree α} {next : α → StateM Tree β}
    (h : Keeps action) (hnext : ∀ a, Keeps (next a)) : Keeps (action >>= next) := by
  intro tree
  have hafter : ((action >>= next).run tree).2 =
      ((next (action.run tree).1).run (action.run tree).2).2 := rfl
  rw [hafter, hnext, h]

variable {directory : List String} {path : String}

end Files.Tree

/-! ### Outcomes -/

/-- What planning a graph comes to under settings. -/
def Settings.planning (settings : Settings) (graph : Graph) : Except (List Problem) Plan :=
  (Run.ofGraph graph settings.resolution.maxAliasDepth settings.exposesByDefault).plan

/-- The exit code for a graph, or for the fault in its place: what is shown does not enter. -/
def Settings.exitCode (settings : Settings) : Except Graph.Fault Graph → ExitCode
  | .error fault => fault.exitCode
  | .ok graph => .ofPlanning (settings.planning graph)

namespace CommandLine

namespace Outcome

variable {settings : Settings} {onlyVerdict : Bool}

variable (hformat : settings.output.format = .json)
include hformat

end Outcome

/-! ### Runs of the command -/

/-- The format in which an action shows what it comes to. -/
def Action.format (settings : Settings) : Action → Settings.Format
  | .plan _ format _ => format.getD settings.output.format
  | .init _ | .check _ | .config => settings.output.format

namespace Command

open Files.Tree

/-- The text of a graph with one module that declares nothing. -/
def listing : String := "\x7b\"modules\":[\x7b\"name\":\"core\"\x7d]\x7d"

end Command
end CommandLine
end Exposure
