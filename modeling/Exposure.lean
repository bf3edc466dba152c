import Exposure.Document.Writer
import Exposure.Files.Tree
import Exposure.Main
import Exposure.Proofs.Annotation.Marks
import Exposure.Proofs.Graph.Built
import Exposure.Proofs.Graph.Nesting
import Exposure.Proofs.Plan.Asking
import Exposure.Proofs.Plan.Visits
import Exposure.Proofs.Plan.Slots
import Exposure.Proofs.Plan.Wanted
import Exposure.Proofs.Plan.Entries
import Exposure.Proofs.Import.Lists
import Exposure.Proofs.Plan.Decided
import Exposure.Proofs.Document.Built
import Exposure.Proofs.Plan.Validity
import Exposure.Proofs.Plan.Exposed
import Exposure.Proofs.Plan.Placement
import Exposure.Proofs.Plan.Imports
import Exposure.Proofs.Plan.Bindings
import Exposure.Proofs.Alias.Cycles
import Exposure.Proofs.Alias.Walks
import Exposure.Proofs.Plan.Stages
import Exposure.Proofs.Plan.Problems
import Exposure.Proofs.Plan.Alike
import Exposure.Proofs.Keyed
import Exposure.Proofs.Plan.Lookup
import Exposure.Proofs.Plan.Orders
import Exposure.Proofs.Document.Profiles
import Exposure.Proofs.Document.Interleaving
import Exposure.Proofs.Alias.Renumbering
import Exposure.Proofs.Plan.Mirrors
import Exposure.Proofs.Plan.Renumbering
import Exposure.Proofs.Import.Groups
import Exposure.Proofs.Import.Passes
import Exposure.Proofs.Plan.ImportCycles
import Exposure.Proofs.Plan.Levels
import Exposure.Proofs.Plan.MissingImports
import Exposure.Proofs.Plan.ManualCode
import Exposure.Proofs.Plan.Contradictions
import Exposure.Proofs.Plan.Warnings
import Exposure.Proofs.Plan.WorkOrders
import Exposure.Proofs.Graph.Extension
import Exposure.Proofs.Plan.Transparent
import Exposure.Proofs.Plan.Extension
import Exposure.Proofs.Plan.DepthLimits
import Exposure.Proofs.Graph.Histories
import Exposure.Proofs.Graph.Representation
import Exposure.Proofs.Graph.Rebuilding
import Exposure.Proofs.Plan.Surroundings
import Exposure.Proofs.Plan.OwnNames
import Exposure.Proofs.Json.Written
import Exposure.Proofs.Document.RoundTrip
import Exposure.Proofs.Alias.Endings
import Exposure.Proofs.Graph.Refusals
import Exposure.Proofs.Document.Acceptance
import Exposure.Proofs.CommandLine.Verdict
import Exposure.Proofs.Annotation.Judging
import Exposure.Proofs.Graph.ParentLoops
import Exposure.Proofs.Import.Scan
import Exposure.Proofs.Import.Settlement
import Exposure.Proofs.Alias.Precedence
import Exposure.Proofs.Plan.Reported
import Exposure.Proofs.Settings.RoundTrip
import Exposure.Proofs.Settings.Overriding
import Exposure.Proofs.Addressed.Runs
