import ConfigGate.SortedMap
import ConfigGate.Text.Blank
import ConfigGate.Text.Pieces
import ConfigGate.Text.Identifier
import ConfigGate.Rule.Expr
import ConfigGate.Rule.Token
import ConfigGate.Rule.Parser
import ConfigGate.Decimal.Power
import ConfigGate.Decimal.Shortest
import ConfigGate.Decimal.Binary64
import ConfigGate.Decimal.Literal
import ConfigGate.Json.Basic
import ConfigGate.Json.Writer
import ConfigGate.Json.Reader
import ConfigGate.Digest.Sha256
import ConfigGate.Wildcard
import ConfigGate.Severity
import ConfigGate.Invariant
import ConfigGate.Contract
import ConfigGate.Schema.Basic
import ConfigGate.Policy
import ConfigGate.Finding
import ConfigGate.Check
import ConfigGate.Gate
import ConfigGate.Report.Json
import ConfigGate.Yaml.Cursor
import ConfigGate.Yaml.Scalar
import ConfigGate.Yaml.Token
import ConfigGate.Yaml.Core
import ConfigGate.Yaml.Node
import ConfigGate.Schema.Document
import ConfigGate.Schema.Yaml
import ConfigGate.Yaml.Writer
import ConfigGate.Toml.Value
import ConfigGate.Toml.Scalar
import ConfigGate.Toml.Reader
import ConfigGate.Resolution
import ConfigGate.Settings.Basic
import ConfigGate.Settings.Toml
import ConfigGate.Explanation
import ConfigGate.Snapshot
import ConfigGate.Report.Normalize
import ConfigGate.Report.View
import ConfigGate.Report.Markdown
import ConfigGate.Report.Summary
import ConfigGate.Report.Annotations
import ConfigGate.Time.Timestamp
import ConfigGate.Time.InternetDate
import ConfigGate.Report.Basic
import ConfigGate.Json.Record
import ConfigGate.Report.Reader
import ConfigGate.Files.Path
import ConfigGate.Files.Fault
import ConfigGate.Files.Tree
import ConfigGate.Failure
import ConfigGate.Host.Basic
import ConfigGate.Host.World
import ConfigGate.Run
import ConfigGate.JsonSchema.Basic
import ConfigGate.JsonSchema.Settings
import ConfigGate.JsonSchema.Report
import ConfigGate.Command.Arguments
import ConfigGate.Command.Invocation
import ConfigGate.Command.Check
import ConfigGate.Command.Help
import ConfigGate.Command.Program
import ConfigGate.Maintenance
import ConfigGate.Main
import ConfigGate.Proofs.Rule.Layout
import ConfigGate.Proofs.Rule.Grammar
import ConfigGate.Proofs.Rule.RoundTrip
import ConfigGate.Proofs.Rule.Truth
import ConfigGate.Proofs.Wildcard
import ConfigGate.Proofs.Gate.Verdict
import ConfigGate.Proofs.Schema.Loading
import ConfigGate.Proofs.Resolution
import ConfigGate.Proofs.Contract
import ConfigGate.Proofs.Gate.Findings
import ConfigGate.Proofs.Gate.Soundness
import ConfigGate.Proofs.Schema.Reload
import ConfigGate.Proofs.Contract.Violations
import ConfigGate.Proofs.Schema.Canonical
import ConfigGate.Proofs.Gate.Arrangement
import ConfigGate.Proofs.Gate.Reordering
import ConfigGate.Proofs.Gate.Sorting
import ConfigGate.Proofs.Gate.Canonical
import ConfigGate.Proofs.Gate.Identity
import ConfigGate.Proofs.Gate.Dependence
import ConfigGate.Proofs.Gate.Fingerprints
import ConfigGate.Proofs.Digits
import ConfigGate.Proofs.Json.Values
import ConfigGate.Proofs.Json.Spelling
import ConfigGate.Proofs.Json.Tokens
import ConfigGate.Proofs.Json.RoundTrip
import ConfigGate.Proofs.Json.Soundness
import ConfigGate.Proofs.Time.RoundTrip
import ConfigGate.Proofs.Report.Records
import ConfigGate.Proofs.Report.Nesting
import ConfigGate.Proofs.Report.RoundTrip
import ConfigGate.Proofs.Contract.Tightening
import ConfigGate.Proofs.Gate.Strictness
import ConfigGate.Proofs.Gate.DeclaredValues
import ConfigGate.Proofs.Files.Places
import ConfigGate.Proofs.Host.Saving
import ConfigGate.Proofs.Host.Checking
import ConfigGate.Proofs.Command.Check
import ConfigGate.Proofs.Gate.Independence
import ConfigGate.Proofs.Wildcard.Substitution
import ConfigGate.Proofs.Report.Escapes
import ConfigGate.Proofs.Report.Annotations
import ConfigGate.Proofs.Snapshot
import ConfigGate.Proofs.Rule.Prefixes
import ConfigGate.Proofs.Rule.Spacing
import ConfigGate.Proofs.Rule.Refusal
import ConfigGate.Proofs.Rule.Outcome
import ConfigGate.Proofs.Rule.References
import ConfigGate.Proofs.FirstFault
import ConfigGate.Proofs.Schema.Validation
import ConfigGate.Proofs.Settings
import ConfigGate.Proofs.Rule.Reading
import ConfigGate.Proofs.Json.Masks
import ConfigGate.Proofs.Resolution.Partition
import ConfigGate.Proofs.Report.Normalize
