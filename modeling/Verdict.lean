import Verdict.Binary64.Basic
import Verdict.Binary64.Round
import Verdict.Command.Arguments
import Verdict.Command.Failure
import Verdict.Command.Files
import Verdict.Command.Input
import Verdict.Command.Presentation
import Verdict.Command.Program
import Verdict.Command.Request
import Verdict.Command.Run
import Verdict.Command.Style
import Verdict.Command.Table
import Verdict.Decimal.Shortest
import Verdict.Expr.Basic
import Verdict.Expr.Json
import Verdict.Expr.Text
import Verdict.Journal
import Verdict.Json.Basic
import Verdict.Json.Reader
import Verdict.Json.Record
import Verdict.Json.Source
import Verdict.Json.Writer
import Verdict.Main
import Verdict.OrderedMap
import Verdict.Power
import Verdict.Predicate
import Verdict.Registry.Basic
import Verdict.Registry.Change
import Verdict.Registry.Config
import Verdict.Registry.Error
import Verdict.Registry.Resolve
import Verdict.Registry.Shared
import Verdict.Relation
import Verdict.Selection.Query
import Verdict.Selection.Selector
import Verdict.Text.Blank
import Verdict.Text.Columns
import Verdict.Text.Emoji
import Verdict.Text.Extender
import Verdict.Text.Graphic
import Verdict.Text.Ignorable
import Verdict.Text.Ligature
import Verdict.Text.Pieces
import Verdict.Text.Quoted
import Verdict.Text.Ranges
import Verdict.Text.Visible
import Verdict.Text.Width
import Verdict.Validation.Constraint
import Verdict.Validation.Validator
import Verdict.Value.Basic
import Verdict.Value.Classify
import Verdict.Value.Display
import Verdict.Value.Json
import Verdict.Value.Ordering
import Verdict.Value.Tagged
import Verdict.Proofs.Registry.Resolution
import Verdict.Proofs.Registry.Names
import Verdict.Proofs.Registry.Reachable
import Verdict.Proofs.Registry.Aliases
import Verdict.Proofs.Registry.Hiding
import Verdict.Proofs.Registry.Registration
import Verdict.Proofs.Scan
import Verdict.Proofs.Registry.Configured
import Verdict.Proofs.Registry.Transparency
import Verdict.Proofs.Selection.Compiled
import Verdict.Proofs.Predicate.Probes
import Verdict.Proofs.Expr.Text
import Verdict.Proofs.Expr.Json
import Verdict.Proofs.Binary64.Nearest
import Verdict.Proofs.Decimal.Shortest
import Verdict.Proofs.Json.Text
import Verdict.Proofs.Json.Number
import Verdict.Proofs.Json.RoundTrip
import Verdict.Proofs.Value.Plain
import Verdict.Proofs.Validation.Grouped
import Verdict.Proofs.Value.Tagged
import Verdict.Proofs.Json.Record
import Verdict.Proofs.Command.Selection
import Verdict.Proofs.Command.Validation
import Verdict.Proofs.Command.Table
import Verdict.Proofs.Registry.Sharing
import Verdict.Proofs.Registry.Commuting
import Verdict.Proofs.Binary64.Overflow
import Verdict.Proofs.Command.Operands
import Verdict.Proofs.Command.Outcome
import Verdict.Proofs.Binary64.Exact
import Verdict.Proofs.Binary64.Widening
import Verdict.Proofs.Value.Classification
import Verdict.Proofs.Value.Comparison
import Verdict.Proofs.Value.Size
import Verdict.Proofs.Registry.Removal
import Verdict.Proofs.Expr.Spelling
import Verdict.Proofs.Registry.Faithful
import Verdict.Proofs.Registry.Negation
import Verdict.Proofs.Text.Quoted
import Verdict.Proofs.Value.Display
import Verdict.Proofs.Command.Aliases
import Verdict.Proofs.Registry.Lenient
