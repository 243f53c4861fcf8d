import GameShelf.Collection
import GameShelf.Plan.Step
import GameShelf.Table
import GameShelf.Proofs.Text.Search
import GameShelf.Proofs.Outcome
import GameShelf.Proofs.Clause.Grammar
import GameShelf.Proofs.Text.Pieces
import GameShelf.Proofs.Filter.Conjunction
import GameShelf.Proofs.Game.Distinct
import GameShelf.Proofs.Selector.Span
import GameShelf.Proofs.Plan.Runs
import GameShelf.Proofs.Filter.NameTest
import GameShelf.Proofs.Order.Preorder
import GameShelf.Proofs.Order.StableSort
import GameShelf.Proofs.Order.NaN
import GameShelf.Proofs.Filter.Query
import GameShelf.Proofs.Utf8
import GameShelf.Csv.Sheet
import GameShelf.Proofs.Csv.Scan
import GameShelf.Proofs.Csv.Cells
import GameShelf.Proofs.Numeral.Decimal
import GameShelf.Proofs.Csv.RoundTrip
import GameShelf.Proofs.Csv.Provenance
import GameShelf.Proofs.Game.Interchange
import GameShelf.Proofs.Csv.Unquoted
import GameShelf.Proofs.Plan.SavedLines
import GameShelf.Proofs.Filter.LoadedName
import GameShelf.Proofs.Plan.ByName
import GameShelf.Proofs.Numeral.AsciiCase
import GameShelf.Proofs.Order.Block
import GameShelf.Proofs.Filter.AsciiCase
import GameShelf.Proofs.Plan.AsciiCase
import GameShelf.Proofs.Filter.Written
import GameShelf.Proofs.Csv.Concatenation
import GameShelf.Proofs.Filter.Substring
import GameShelf.Proofs.Selector.Reading
import GameShelf.Proofs.Plan.Adding
import GameShelf.Proofs.Plan.Removing
import GameShelf.Proofs.Plan.View
import GameShelf.Proofs.Clause.Rejection
import GameShelf.Proofs.Clause.Leftmost
import GameShelf.Proofs.Clause.NameText
import GameShelf.Proofs.Filter.Rejection
import GameShelf.Proofs.Binary64.Denotation
import GameShelf.Proofs.Filter.Exact
import GameShelf.Proofs.Binary64.Integer
import GameShelf.Proofs.Clause.Comparison
import GameShelf.Proofs.Clause.RoundedInteger
import GameShelf.Proofs.Order.Merged
import GameShelf.Proofs.Game.FirstOccurrence
import GameShelf.Proofs.Selector.Positions
import GameShelf.Proofs.Selector.Saturation
import GameShelf.Proofs.Plan.OneByOne
import GameShelf.Proofs.Plan.Undo
import GameShelf.Proofs.Game.Rearranged
import GameShelf.Proofs.Plan.Commute
import GameShelf.Proofs.Order.SeveralKeys
import GameShelf.Proofs.Order.Mirrored
import GameShelf.Proofs.Text.Lowered
import GameShelf.Proofs.Clause.Stored
import GameShelf.Proofs.Numeral.Integer
import GameShelf.Proofs.Csv.Texts
import GameShelf.Proofs.Csv.Filling
import GameShelf.Proofs.Csv.WellFormed
import GameShelf.Proofs.Text.SmallLetter
import GameShelf.Proofs.Field.SortKey
