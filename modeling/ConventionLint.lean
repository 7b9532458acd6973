import ConventionLint.CommandLine
import ConventionLint.Config.Basic
import ConventionLint.Config.Chain
import ConventionLint.Config.Settings
import ConventionLint.Decimal.Double
import ConventionLint.Decimal.Natural
import ConventionLint.Decimal.Shortest
import ConventionLint.Diagnostic
import ConventionLint.Discovery
import ConventionLint.Dispatch
import ConventionLint.Failure
import ConventionLint.FileSystem
import ConventionLint.Glob.Match
import ConventionLint.Glob.Pattern
import ConventionLint.Host
import ConventionLint.Json.Document
import ConventionLint.Json.Numeral
import ConventionLint.Json.Reader
import ConventionLint.Json.Token
import ConventionLint.Json.Value
import ConventionLint.Json5.Document
import ConventionLint.Json5.Reader
import ConventionLint.Json5.Token
import ConventionLint.LineMap
import ConventionLint.LogFormat
import ConventionLint.Main
import ConventionLint.Message
import ConventionLint.Mismatch
import ConventionLint.Path
import ConventionLint.Program.Basic
import ConventionLint.Program.Builder
import ConventionLint.Program.Kind
import ConventionLint.Program.Reader
import ConventionLint.Program.Walk
import ConventionLint.Program.Writer
import ConventionLint.Proofs.Building.Operations
import ConventionLint.Proofs.Building.Session
import ConventionLint.Proofs.Config.Loading
import ConventionLint.Proofs.Config.Precedence
import ConventionLint.Proofs.Config.RuleMap
import ConventionLint.Proofs.Config.Validation
import ConventionLint.Proofs.Decimal.Natural
import ConventionLint.Proofs.Diagnostic.Order
import ConventionLint.Proofs.Discovery.Canonical
import ConventionLint.Proofs.Discovery.Defaults
import ConventionLint.Proofs.Discovery.Order
import ConventionLint.Proofs.Discovery.Patterns
import ConventionLint.Proofs.Discovery.Trails
import ConventionLint.Proofs.Discovery.Walk
import ConventionLint.Proofs.Dispatch.Runs
import ConventionLint.Proofs.FileSystem.Following
import ConventionLint.Proofs.FileSystem.Reading
import ConventionLint.Proofs.Glob.Suffix
import ConventionLint.Proofs.Host.FileOrder
import ConventionLint.Proofs.Host.Registration
import ConventionLint.Proofs.Json.Lexing
import ConventionLint.Proofs.Json.Records
import ConventionLint.Proofs.Json.Tree
import ConventionLint.Proofs.Json.Values
import ConventionLint.Proofs.LineMap.Lines
import ConventionLint.Proofs.LineMap.Positions
import ConventionLint.Proofs.LineMap.Spans
import ConventionLint.Proofs.LineMap.Table
import ConventionLint.Proofs.Message.Pieces
import ConventionLint.Proofs.Message.Substitution
import ConventionLint.Proofs.Path.Order
import ConventionLint.Proofs.Path.Pieces
import ConventionLint.Proofs.Program.Reference
import ConventionLint.Proofs.Program.RoundTrip
import ConventionLint.Proofs.Report.Color
import ConventionLint.Proofs.Report.Listing
import ConventionLint.Proofs.Report.Placement
import ConventionLint.Proofs.Report.Summary
import ConventionLint.Proofs.Report.Underline
import ConventionLint.Proofs.RuleSeverity.Overrides
import ConventionLint.Proofs.Rules.ImmutableByConvention
import ConventionLint.Proofs.Run.Analysis
import ConventionLint.Proofs.Run.Color
import ConventionLint.Proofs.Run.Isolation
import ConventionLint.Proofs.Run.Outcome
import ConventionLint.Proofs.Stages
import ConventionLint.Proofs.Text.Bytes
import ConventionLint.Proofs.Text.Folding
import ConventionLint.Proofs.Walk.Coverage
import ConventionLint.Proofs.Walk.Loop
import ConventionLint.Proofs.Walk.Preorder
import ConventionLint.Proofs.Walk.Reachability
import ConventionLint.Proofs.Walk.Roots
import ConventionLint.Report.Listing
import ConventionLint.Report.Snippet
import ConventionLint.Report.Styled
import ConventionLint.Report.Text
import ConventionLint.RuleMap
import ConventionLint.RuleSeverity
import ConventionLint.Rules.ImmutableByConvention
import ConventionLint.Run
import ConventionLint.Severity
import ConventionLint.Span
import ConventionLint.Text.ByteSize
import ConventionLint.Text.Bytes
import ConventionLint.Text.Letter
import ConventionLint.Text.NamePart
import ConventionLint.Text.Ranges
import ConventionLint.Text.Unprintable
import ConventionLint.Text.WhiteSpace
