import TreeLint.Check
import TreeLint.Command.Arguments
import TreeLint.Command.Discover
import TreeLint.Command.Report
import TreeLint.Command.Run
import TreeLint.Config.Basic
import TreeLint.Config.Decode
import TreeLint.Config.FromToml
import TreeLint.Config.Load
import TreeLint.Error
import TreeLint.Files
import TreeLint.Glob
import TreeLint.Json.Fault
import TreeLint.Json.Lexeme
import TreeLint.Json.Numeral
import TreeLint.Json.Reader
import TreeLint.Json.Value
import TreeLint.Json.Writer
import TreeLint.Kind
import TreeLint.Main
import TreeLint.Message
import TreeLint.Path
import TreeLint.Predicate
import TreeLint.Proofs.ArenaInvariant
import TreeLint.Proofs.Bracketing
import TreeLint.Proofs.BuilderRuns
import TreeLint.Proofs.BuilderWords
import TreeLint.Proofs.BuiltinRules
import TreeLint.Proofs.CaptureLoop
import TreeLint.Proofs.ChildwiseRendering
import TreeLint.Proofs.Discovery
import TreeLint.Proofs.IncludePatterns
import TreeLint.Proofs.Independence
import TreeLint.Proofs.JsonLexemes
import TreeLint.Proofs.JsonSpelling
import TreeLint.Proofs.JumpAnchors
import TreeLint.Proofs.JumpReports
import TreeLint.Proofs.Layout
import TreeLint.Proofs.Lineage
import TreeLint.Proofs.LinkTable
import TreeLint.Proofs.LintRuns
import TreeLint.Proofs.MatchingNodes
import TreeLint.Proofs.NodePresentations
import TreeLint.Proofs.NodeText
import TreeLint.Proofs.Numbering
import TreeLint.Proofs.Paths
import TreeLint.Proofs.QuotedSubtrees
import TreeLint.Proofs.Recording
import TreeLint.Proofs.RecursiveWalk
import TreeLint.Proofs.RegistryHistory
import TreeLint.Proofs.RegistryRefusals
import TreeLint.Proofs.RegistryRuns
import TreeLint.Proofs.Schedule
import TreeLint.Proofs.Siblings
import TreeLint.Proofs.StructuralEquality
import TreeLint.Proofs.Subtrees
import TreeLint.Proofs.Templates
import TreeLint.Proofs.Terms
import TreeLint.Proofs.TokenOrder
import TreeLint.Proofs.Traversals
import TreeLint.Proofs.TreeRoundTrip
import TreeLint.Proofs.WellShaped
import TreeLint.Registry
import TreeLint.Rule.Builtin
import TreeLint.Rule.CodeFollowingJump
import TreeLint.Severity
import TreeLint.Text.Decimal
import TreeLint.Text.Digits
import TreeLint.Text.Glyph
import TreeLint.Text.Quoted
import TreeLint.Toml.Document
import TreeLint.Toml.Scalar
import TreeLint.Tree.Basic
import TreeLint.Tree.Builder
import TreeLint.Tree.Decode
import TreeLint.Tree.Encode
import TreeLint.Tree.Equivalence
import TreeLint.Tree.Raw
import TreeLint.Tree.Render
import TreeLint.Tree.Traversal
import TreeLint.Version
import TreeLint.Violation
import TreeLint.Walk
