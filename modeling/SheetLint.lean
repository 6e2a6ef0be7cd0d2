import SheetLint.Analysis
import SheetLint.Command
import SheetLint.Command.Arguments
import SheetLint.Command.Check
import SheetLint.Command.Listing
import SheetLint.Command.Starter
import SheetLint.Config
import SheetLint.Config.Source
import SheetLint.Decimal
import SheetLint.Detection
import SheetLint.Directive
import SheetLint.Discovery
import SheetLint.Double.Shortest
import SheetLint.Double.Text
import SheetLint.FileContext
import SheetLint.FileError
import SheetLint.FileTree
import SheetLint.Glob.Expand
import SheetLint.Glob.Pattern
import SheetLint.Json
import SheetLint.Json.Numeral
import SheetLint.Json.Quoted
import SheetLint.Json.Reader
import SheetLint.Json.Token
import SheetLint.Json.Writer
import SheetLint.Ledger
import SheetLint.Linter
import SheetLint.Main
import SheetLint.Node
import SheetLint.Node.Dump
import SheetLint.Node.Walk
import SheetLint.Order
import SheetLint.Order.Preset
import SheetLint.Path
import SheetLint.Proofs.AlphabeticalOrder
import SheetLint.Proofs.BrokenDumps
import SheetLint.Proofs.BuiltinOutcome
import SheetLint.Proofs.CollectedDirectives
import SheetLint.Proofs.CompactLines
import SheetLint.Proofs.ConfiguredRules
import SheetLint.Proofs.CustomOrder
import SheetLint.Proofs.DecimalLiterals
import SheetLint.Proofs.DirectiveEffect
import SheetLint.Proofs.DirectiveGrammar
import SheetLint.Proofs.DiscoveredPaths
import SheetLint.Proofs.DiscoveredSets
import SheetLint.Proofs.DocumentTexts
import SheetLint.Proofs.DoubleRounding
import SheetLint.Proofs.DumpDocuments
import SheetLint.Proofs.DumpRoundTrip
import SheetLint.Proofs.EmptyLines
import SheetLint.Proofs.FileOutcomes
import SheetLint.Proofs.LedgerEntries
import SheetLint.Proofs.LedgerRuns
import SheetLint.Proofs.LineEnds
import SheetLint.Proofs.LintCorrectness
import SheetLint.Proofs.LintRun
import SheetLint.Proofs.Malformations
import SheetLint.Proofs.MovedRun
import SheetLint.Proofs.Numerals
import SheetLint.Proofs.PathCharacters
import SheetLint.Proofs.PathOrder
import SheetLint.Proofs.PathsBelow
import SheetLint.Proofs.PositionOrder
import SheetLint.Proofs.Preorder
import SheetLint.Proofs.QuotedTexts
import SheetLint.Proofs.RecasedColors
import SheetLint.Proofs.RegistrationOrder
import SheetLint.Proofs.RelabelledTree
import SheetLint.Proofs.RelativeOrder
import SheetLint.Proofs.RemovedFiles
import SheetLint.Proofs.RemovedLineEnds
import SheetLint.Proofs.RepeatedRun
import SheetLint.Proofs.ReportCounts
import SheetLint.Proofs.ReportRoundTrip
import SheetLint.Proofs.ReportedPaths
import SheetLint.Proofs.ResolvedRules
import SheetLint.Proofs.RuleOutcome
import SheetLint.Proofs.RuleSelection
import SheetLint.Proofs.RunningMaximum
import SheetLint.Proofs.Sites
import SheetLint.Proofs.SpacedRulesets
import SheetLint.Proofs.StableSort
import SheetLint.Proofs.StackWalk
import SheetLint.Proofs.TrimmedTexts
import SheetLint.Proofs.Utf8Order
import SheetLint.Proofs.VendorMarks
import SheetLint.Proofs.Violations
import SheetLint.Record
import SheetLint.Report
import SheetLint.Report.Document
import SheetLint.Report.Render
import SheetLint.Rule
import SheetLint.Rule.BlockSpacing
import SheetLint.Rule.Catalog
import SheetLint.Rule.DeclarationOrder
import SheetLint.Rule.HexCase
import SheetLint.Rule.HexDigits
import SheetLint.Rule.ZeroUnit
import SheetLint.Setting
import SheetLint.Severity
import SheetLint.Shape
import SheetLint.Suppression
import SheetLint.Text.Blank
import SheetLint.Text.Case
import SheetLint.Text.Case.Table
import SheetLint.Text.HexColor
import SheetLint.Text.Letter
import SheetLint.Text.Line
import SheetLint.Text.Number
import SheetLint.Text.Pieces
import SheetLint.Text.Ranges
import SheetLint.Text.Vendor
import SheetLint.Toml
import SheetLint.Toml.Cut
import SheetLint.Toml.Document
import SheetLint.Toml.Reader
import SheetLint.Toml.Scalar
import SheetLint.Toml.Text
import SheetLint.Toml.Writer
