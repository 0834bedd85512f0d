import BlockOrder.Text.Basic
import BlockOrder.Text.Blank
import BlockOrder.Text.Letter
import BlockOrder.Text.Case
import BlockOrder.Text.CaseFold
import BlockOrder.Pattern.Search
import BlockOrder.Pattern.Compile
import BlockOrder.Buffer
import BlockOrder.Edit.Pending
import BlockOrder.Lines.LineSet
import BlockOrder.Data.SortedMap
import BlockOrder.Data.Json
import BlockOrder.Config.Basic
import BlockOrder.Config.Format
import BlockOrder.Classifier.Compile
import BlockOrder.Blocks.Query
import BlockOrder.Blocks.Selection
import BlockOrder.Sort.Options
import BlockOrder.RunSort
import BlockOrder.Sort.Arrange
import BlockOrder.Session
import BlockOrder.Main
import BlockOrder.Proofs.Text.Lines
import BlockOrder.Proofs.Document.Slice
import BlockOrder.Proofs.Document.Runs
import BlockOrder.Proofs.Lines.Work
import BlockOrder.Proofs.Blocks.Tiling
import BlockOrder.Proofs.RunSort.Rearranging
import BlockOrder.Proofs.RunSort.Merging
import BlockOrder.Proofs.RunSort.Runs
import BlockOrder.Proofs.RunSort.Sorting
import BlockOrder.Proofs.Order.Entries
import BlockOrder.Proofs.Sort.Arrangement
import BlockOrder.Proofs.Sort.Nesting
import BlockOrder.Proofs.Edit.Merge
import BlockOrder.Proofs.Edit.Accounts
import BlockOrder.Proofs.Sort.Conservation
import BlockOrder.Proofs.Lines.Faithful
import BlockOrder.Proofs.Blocks.Transparency
import BlockOrder.Proofs.Buffer.Edits
import BlockOrder.Proofs.Sort.Transparency
import BlockOrder.Proofs.Blocks.Boundaries
import BlockOrder.Proofs.Blocks.Growth
import BlockOrder.Proofs.Directive.Apart
import BlockOrder.Proofs.CommandLine.Frame
import BlockOrder.Proofs.StableSort
import BlockOrder.Proofs.Order.Collation
import BlockOrder.Proofs.Order.Oriented
import BlockOrder.Proofs.Order.Preorder
import BlockOrder.Proofs.Text.Case
import BlockOrder.Proofs.Sort.PendingEdits
import BlockOrder.Proofs.Sort.Separators
import BlockOrder.Proofs.Sort.Steady
import BlockOrder.Proofs.Blocks.Margins
import BlockOrder.Proofs.Sort.Parts
import BlockOrder.Proofs.Sort.Settled
import BlockOrder.Proofs.Sort.Levels
import BlockOrder.Proofs.Sort.Again
import BlockOrder.Proofs.Directive.Simultaneous
import BlockOrder.Proofs.Classifier.Brackets
import BlockOrder.Proofs.Classifier.Additive
import BlockOrder.Proofs.Blocks.Balance
import BlockOrder.Proofs.Blocks.Layout
import BlockOrder.Proofs.Order.CustomOrder
import BlockOrder.Proofs.Text.CasePairs
import BlockOrder.Proofs.Order.CaseTies
import BlockOrder.Proofs.Session.Cancellation
import BlockOrder.Proofs.Sort.Skipping
import BlockOrder.Proofs.Blocks.Repair
import BlockOrder.Proofs.Blocks.Inner
import BlockOrder.Proofs.Sort.Placement
import BlockOrder.Proofs.Sort.Unbounded
import BlockOrder.Proofs.Blocks.Restriction
import BlockOrder.Proofs.Edit.Piecewise
import BlockOrder.Proofs.Buffer.Reading
import BlockOrder.Proofs.Buffer.LineCounts
import BlockOrder.Proofs.Order.ListedOrder
import BlockOrder.Proofs.Pattern.Forward
import BlockOrder.Proofs.Pattern.Opener
import BlockOrder.Proofs.Pattern.OnePass
import BlockOrder.Proofs.Classifier.OnePass
import BlockOrder.Proofs.Classifier.Validated
import BlockOrder.Proofs.Buffer.Saving
import BlockOrder.Proofs.Directive.Written
import BlockOrder.Proofs.Config.RoundTrip
import BlockOrder.Proofs.Document.Additive
import BlockOrder.Proofs.Order.Numerals
import BlockOrder.Proofs.Lines.Canonical
import BlockOrder.Proofs.Classifier.Stripped
