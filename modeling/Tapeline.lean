import Tapeline.Arithmetic.Evaluation
import Tapeline.Arithmetic.Token
import Tapeline.Binary64.Basic
import Tapeline.Binary64.Decimal
import Tapeline.Binary64.Places
import Tapeline.Binary64.Shortest
import Tapeline.CommandLine.Arguments
import Tapeline.CommandLine.Command
import Tapeline.CommandLine.Help
import Tapeline.CommandLine.Report
import Tapeline.Document.Basic
import Tapeline.Document.Moment
import Tapeline.Evaluation
import Tapeline.FileTree
import Tapeline.Interpretation.Client
import Tapeline.Interpretation.Config
import Tapeline.Interpretation.Payload
import Tapeline.Interpretation.Reply
import Tapeline.Interpretation.Resolution
import Tapeline.Json.Basic
import Tapeline.Json.Fields
import Tapeline.Json.Printer
import Tapeline.Json.Reader
import Tapeline.Json.Shown
import Tapeline.Log.Clock
import Tapeline.Log.Event
import Tapeline.Log.Logger
import Tapeline.Log.Record
import Tapeline.Log.Template
import Tapeline.Main
import Tapeline.Measure.Display
import Tapeline.Measure.Operator
import Tapeline.Measure.Quantity
import Tapeline.Measure.Reduction
import Tapeline.Measure.Sixteenths
import Tapeline.Measure.Tokens
import Tapeline.Numeral
import Tapeline.Path
import Tapeline.Percentage
import Tapeline.Proofs.Agreement
import Tapeline.Proofs.Arithmetic.Climbing
import Tapeline.Proofs.Arithmetic.Grammar
import Tapeline.Proofs.Arithmetic.Lexing
import Tapeline.Proofs.Arithmetic.PlainText
import Tapeline.Proofs.Arithmetic.Scanning
import Tapeline.Proofs.Arithmetic.Tiers
import Tapeline.Proofs.BestEffort
import Tapeline.Proofs.Binary64.Decimal
import Tapeline.Proofs.Binary64.Exact
import Tapeline.Proofs.Binary64.Finite
import Tapeline.Proofs.Binary64.Floor
import Tapeline.Proofs.Binary64.Rounding
import Tapeline.Proofs.Binary64.Shortest
import Tapeline.Proofs.Binary64.ZeroSign
import Tapeline.Proofs.Degeneracy
import Tapeline.Proofs.Failure
import Tapeline.Proofs.Fallback
import Tapeline.Proofs.Interpretation.Accepted
import Tapeline.Proofs.Interpretation.Address
import Tapeline.Proofs.Interpretation.Blocking
import Tapeline.Proofs.Interpretation.Channels
import Tapeline.Proofs.Interpretation.Cleaning
import Tapeline.Proofs.Interpretation.Fences
import Tapeline.Proofs.Interpretation.Reported
import Tapeline.Proofs.Interpretation.Retries
import Tapeline.Proofs.Interpretation.Triples
import Tapeline.Proofs.Json.Grammar
import Tapeline.Proofs.Json.Members
import Tapeline.Proofs.Json.Number
import Tapeline.Proofs.Json.Printing
import Tapeline.Proofs.Json.Scalars
import Tapeline.Proofs.Json.Sequence
import Tapeline.Proofs.Json.Strings
import Tapeline.Proofs.Log.Configuration
import Tapeline.Proofs.Log.Keeping
import Tapeline.Proofs.Log.Lines
import Tapeline.Proofs.Log.Loggable
import Tapeline.Proofs.Log.Settling
import Tapeline.Proofs.Log.Watching
import Tapeline.Proofs.Measure.Composition
import Tapeline.Proofs.Measure.Cutting
import Tapeline.Proofs.Measure.Decimals
import Tapeline.Proofs.Measure.Euclid
import Tapeline.Proofs.Measure.Folding
import Tapeline.Proofs.Measure.Fractions
import Tapeline.Proofs.Measure.Joining
import Tapeline.Proofs.Measure.Layout
import Tapeline.Proofs.Measure.LoneSigns
import Tapeline.Proofs.Measure.Markers
import Tapeline.Proofs.Measure.Nearest
import Tapeline.Proofs.Measure.Order
import Tapeline.Proofs.Measure.Pieces
import Tapeline.Proofs.Measure.Readable
import Tapeline.Proofs.Measure.Reading
import Tapeline.Proofs.Measure.Reducible
import Tapeline.Proofs.Measure.RoundTrip
import Tapeline.Proofs.Measure.Rounding
import Tapeline.Proofs.Measure.Spacing
import Tapeline.Proofs.Measure.Starred
import Tapeline.Proofs.Measure.Totals
import Tapeline.Proofs.Measure.Trees
import Tapeline.Proofs.Measure.Turns
import Tapeline.Proofs.Measure.WrittenLengths
import Tapeline.Proofs.Percentage
import Tapeline.Proofs.Percentage.Operand
import Tapeline.Proofs.Percentage.Reading
import Tapeline.Proofs.Percentage.Shapes
import Tapeline.Proofs.PlainNumbers
import Tapeline.Proofs.Results
import Tapeline.Proofs.Routes
import Tapeline.Proofs.Settings.Faults
import Tapeline.Proofs.Settings.Fields
import Tapeline.Proofs.Settings.History
import Tapeline.Proofs.Spacing
import Tapeline.Proofs.Text.DecimalLayout
import Tapeline.Proofs.Text.Digits
import Tapeline.Proofs.Text.Literal
import Tapeline.Proofs.Text.LongestNumber
import Tapeline.Proofs.Text.NumberText
import Tapeline.Proofs.Text.Spacing
import Tapeline.Proofs.Text.Starred
import Tapeline.Proofs.Text.Strip
import Tapeline.Proofs.TimesGlyph
import Tapeline.Proofs.UnitMarks
import Tapeline.Service
import Tapeline.Session
import Tapeline.Settings.Basic
import Tapeline.Settings.Cache
import Tapeline.Settings.Resolution
import Tapeline.Text.Base64
import Tapeline.Text.Basic
import Tapeline.Text.Blank
import Tapeline.Text.Case
import Tapeline.Text.Charset
import Tapeline.Text.ContentType
import Tapeline.Text.Digit
import Tapeline.Text.Printable
import Tapeline.Text.Quoted
import Tapeline.Text.Range
import Tapeline.Text.Utf16
import Tapeline.Text.Utf8
import Tapeline.Toml.Basic
import Tapeline.Toml.Reader
import Tapeline.Toml.Value
import Tapeline.Workspace
import Tapeline.Yaml.Cell
import Tapeline.Yaml.Node
import Tapeline.Yaml.Reader
import Tapeline.Yaml.Scalar
import Tapeline.Yaml.Token
