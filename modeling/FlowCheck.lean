import FlowCheck.CommandLine.Program
import FlowCheck.Json.Parser
import FlowCheck.Json.Printer
import FlowCheck.Main
import FlowCheck.Model.Flow
import FlowCheck.Rules.Registry
import FlowCheck.Settings.Loading
import FlowCheck.Structure.Basic
import FlowCheck.Toml.Reader
import FlowCheck.Validation
import FlowCheck.Yaml.Printer
import FlowCheck.Yaml.Reader
import FlowCheck.Proofs.Commands
import FlowCheck.Proofs.FlowTexts
import FlowCheck.Proofs.Grammar.Acceptance
import FlowCheck.Proofs.Grammar.Widening
import FlowCheck.Proofs.Graph.Loops
import FlowCheck.Proofs.Graph.References
import FlowCheck.Proofs.Graph.Routes
import FlowCheck.Proofs.Limits
import FlowCheck.Proofs.PrintedFlows
import FlowCheck.Proofs.Rules.Catalogue
import FlowCheck.Proofs.Rules.Distinct
import FlowCheck.Proofs.Rules.Levels
import FlowCheck.Proofs.Rules.Masked
import FlowCheck.Proofs.Rules.Paths
import FlowCheck.Proofs.Settings.Precedence
import FlowCheck.Proofs.Structure.Blame
import FlowCheck.Proofs.Structure.Mistyped
import FlowCheck.Proofs.Structure.Independence
import FlowCheck.Proofs.Structure.Widening
import FlowCheck.Proofs.Tiers
import FlowCheck.Proofs.Graph.Identifiers
import FlowCheck.Proofs.Rules.Addresses
import FlowCheck.Proofs.Workspace.LogFile
import FlowCheck.Proofs.LineFeeds
import FlowCheck.Proofs.ReportLines
