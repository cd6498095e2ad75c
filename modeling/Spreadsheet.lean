import Spreadsheet.Main
import Spreadsheet.Web.Reply
import Spreadsheet.Proofs.Reference.Label
import Spreadsheet.Proofs.Formula.Mentions
import Spreadsheet.Proofs.Formula.Total
import Spreadsheet.Proofs.Formula.Simulation
import Spreadsheet.Proofs.Formula.Memo
import Spreadsheet.Proofs.Formula.Context
import Spreadsheet.Proofs.Formula.Locality
import Spreadsheet.Proofs.Except
import Spreadsheet.Proofs.Sheet.Operation
import Spreadsheet.Proofs.Sheet.Timeline
import Spreadsheet.Proofs.Binary64.Interval
import Spreadsheet.Proofs.Binary64.Shortest
import Spreadsheet.Proofs.Number.Numeral
import Spreadsheet.Proofs.Json.Number
import Spreadsheet.Proofs.Json.Text
import Spreadsheet.Proofs.Json.Spelling
import Spreadsheet.Proofs.Json.RoundTrip
import Spreadsheet.Proofs.Json.Lenient
import Spreadsheet.Proofs.Document.RoundTrip
import Spreadsheet.Proofs.Number.Order
import Spreadsheet.Proofs.Grid.Contents
import Spreadsheet.Proofs.Grid.Normal
import Spreadsheet.Proofs.Grid.Width
import Spreadsheet.Proofs.Grid.Replay
import Spreadsheet.Proofs.Sheet.Soundness
import Spreadsheet.Proofs.Sheet.Storage
import Spreadsheet.Proofs.Delimited
import Spreadsheet.Proofs.Grid.Export
import Spreadsheet.Proofs.Formula.Grammar
import Spreadsheet.Proofs.Formula.Lexing
import Spreadsheet.Proofs.Formula.Printing
import Spreadsheet.Proofs.Formula.Written
import Spreadsheet.Proofs.Formula.Parsing
import Spreadsheet.Proofs.Formula.Arithmetic
import Spreadsheet.Proofs.Session.Effect
import Spreadsheet.Proofs.Session.Failure
import Spreadsheet.Proofs.Session.Dirty
import Spreadsheet.Proofs.Grid.Shift
import Spreadsheet.Proofs.Sheet.Restructuring
import Spreadsheet.Proofs.Sheet.Alike
import Spreadsheet.Proofs.Session.Carrying
import Spreadsheet.Proofs.Session.Reopening
import Spreadsheet.Proofs.Cell.Rendering
import Spreadsheet.Proofs.Sheet.Rendering
import Spreadsheet.Proofs.Session.Rendering
import Spreadsheet.Proofs.Formula.Chaining
import Spreadsheet.Proofs.Grid.Entering
import Spreadsheet.Proofs.Grid.Stability
import Spreadsheet.Proofs.Grid.Keys
import Spreadsheet.Proofs.Grid.Ordering
import Spreadsheet.Proofs.Number.Rounding
import Spreadsheet.Proofs.Grid.NumericOrder
import Spreadsheet.Proofs.Text.Trimming
import Spreadsheet.Proofs.Number.Extremes
import Spreadsheet.Proofs.Number.Finite
import Spreadsheet.Proofs.Formula.Reading
import Spreadsheet.Proofs.Formula.Finite
import Spreadsheet.Proofs.Formula.Calls
import Spreadsheet.Proofs.Formula.Ranges
import Spreadsheet.Proofs.Number.Plain
import Spreadsheet.Proofs.Formula.SingleCell
import Spreadsheet.Proofs.Cell.Retyping
import Spreadsheet.Proofs.Sheet.Retyping
import Spreadsheet.Proofs.Formula.Nesting
import Spreadsheet.Proofs.Formula.Splitting
import Spreadsheet.Proofs.Formula.Cutting
import Spreadsheet.Proofs.Formula.Positions
import Spreadsheet.Proofs.Formula.Quotation
import Spreadsheet.Proofs.Formula.Literal
import Spreadsheet.Proofs.Json.Holding
import Spreadsheet.Proofs.Document.Numbers
import Spreadsheet.Proofs.Cell.Recommitting
import Spreadsheet.Proofs.Sheet.Recommitting
import Spreadsheet.Proofs.Text.Capitals
import Spreadsheet.Proofs.Number.Capitals
import Spreadsheet.Proofs.Formula.Capitals
import Spreadsheet.Proofs.Formula.Caseless
import Spreadsheet.Proofs.Reference.Naming
import Spreadsheet.Proofs.Reference.Canonical
import Spreadsheet.Proofs.Reference.Rectangle
import Spreadsheet.Proofs.Json.Step
import Spreadsheet.Proofs.Json.Scanning
import Spreadsheet.Proofs.Json.LongInteger
import Spreadsheet.Proofs.Document.Modes
import Spreadsheet.Proofs.Cell.Normal
import Spreadsheet.Proofs.Number.LongInteger
import Spreadsheet.Proofs.Cell.Typing
import Spreadsheet.Proofs.Session.Batch
import Spreadsheet.Proofs.Json.Printing
import Spreadsheet.Proofs.Document.Writing
import Spreadsheet.Proofs.Sheet.Saving
import Spreadsheet.Proofs.View.ColumnMaps
import Spreadsheet.Proofs.Sheet.Refusal
import Spreadsheet.Proofs.Json.Storing
import Spreadsheet.Proofs.Json.Graphic
import Spreadsheet.Proofs.Files
import Spreadsheet.Proofs.EventLog.Tail
import Spreadsheet.Proofs.EventLog.Entry
import Spreadsheet.Proofs.EventLog.Reading
import Spreadsheet.Proofs.EventLog.Damage
import Spreadsheet.Proofs.Cell.Dates
import Spreadsheet.Proofs.Selection
import Spreadsheet.Proofs.Cell.Grouping
import Spreadsheet.Proofs.Text.Pattern
import Spreadsheet.Proofs.Formula.Entries
import Spreadsheet.Proofs.Formula.Dispatch
