import AgentFlow.Json.Printer
import AgentFlow.Json.Object
import AgentFlow.Decimal.Literal
import AgentFlow.Text.Basic
import AgentFlow.Json.Record
import AgentFlow.Workflow.Diagnosis
import AgentFlow.Saved.FlowFile
import AgentFlow.Editor.Session
import AgentFlow.Search.Ranking
import AgentFlow.Settings
import AgentFlow.Backend.Client
import AgentFlow.Main
import AgentFlow.Proofs.Decimal.BinaryValue
import AgentFlow.Proofs.Json.Lexing
import AgentFlow.Proofs.Saved.Members
import AgentFlow.Proofs.Saved.NormalForm
import AgentFlow.Proofs.Workflow.Gate
import AgentFlow.Proofs.Decimal.Rounding
import AgentFlow.Proofs.Json.Parsing
import AgentFlow.Proofs.Json.Values
import AgentFlow.Proofs.Json.Records
import AgentFlow.Proofs.Saved.Text
import AgentFlow.Proofs.Saved.Stability
import AgentFlow.Proofs.Workflow.Refinement
import AgentFlow.Proofs.Editor.Runs
import AgentFlow.Proofs.Editor.Selection
import AgentFlow.Proofs.Editor.Policies
import AgentFlow.Proofs.Editor.Reopening
import AgentFlow.Proofs.Workflow.Wiring
import AgentFlow.Proofs.Editor.Numbering
import AgentFlow.Proofs.Editor.StaleReferences
import AgentFlow.Proofs.Editor.EdgeIdentity
import AgentFlow.Proofs.Decimal.Digits
import AgentFlow.Proofs.Decimal.Precision
import AgentFlow.Proofs.Json.Rereading
import AgentFlow.Proofs.Saved.Acceptance
import AgentFlow.Proofs.Editor.Loadable
import AgentFlow.Proofs.Workflow.Offering
import AgentFlow.Proofs.Workflow.Bindings
import AgentFlow.Proofs.Saved.Resaving
import AgentFlow.Proofs.CommandLine.Upload
import AgentFlow.Proofs.Editor.Offers
import AgentFlow.Proofs.Checking
import AgentFlow.Proofs.Saved.Format
import AgentFlow.Proofs.Workflow.DiscoveryOrder
import AgentFlow.Proofs.Editor.CombinedUpdates
import AgentFlow.Proofs.Saved.Keeping
import AgentFlow.Proofs.Workflow.StructuralIssues
import AgentFlow.Proofs.Workflow.UnknownTargets
import AgentFlow.Proofs.Editor.Building
import AgentFlow.Proofs.Search.Ranking
import AgentFlow.Proofs.Saved.TypeNames
import AgentFlow.Proofs.Workflow.FreshIds
import AgentFlow.Proofs.Backend.Polling
import AgentFlow.Proofs.Backend.Addresses
import AgentFlow.Proofs.Backend.Failures
import AgentFlow.Proofs.Saved.Taking
