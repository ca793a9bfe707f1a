import Hooklog.Bridge
import Hooklog.Catcher
import Hooklog.Catcher.Marker
import Hooklog.Config
import Hooklog.Config.Json
import Hooklog.Decimal.Binary
import Hooklog.Decimal.Integer
import Hooklog.Decimal.Layout
import Hooklog.Decimal.Reader
import Hooklog.Decimal.Shortest
import Hooklog.Destination
import Hooklog.Destination.LogFile
import Hooklog.Duration.Format
import Hooklog.Duration.Rounding
import Hooklog.Duration.Span
import Hooklog.Entry
import Hooklog.Entry.Json
import Hooklog.Error
import Hooklog.Field
import Hooklog.Field.Json
import Hooklog.FileTree
import Hooklog.FileTree.Path
import Hooklog.Formatter
import Hooklog.Formatter.JsonLine
import Hooklog.Formatter.Line
import Hooklog.Formatter.Options
import Hooklog.Formatter.Painters
import Hooklog.Formatter.Text
import Hooklog.Hook
import Hooklog.Json.Number
import Hooklog.Json.Reader
import Hooklog.Json.Value
import Hooklog.Level
import Hooklog.Level.Filter
import Hooklog.Level.Json
import Hooklog.Logger
import Hooklog.Logger.Derivation
import Hooklog.Logger.Dispatch
import Hooklog.Logger.Write
import Hooklog.Settings
import Hooklog.Sgr
import Hooklog.Sgr.Strip
import Hooklog.SortedMap
import Hooklog.Store
import Hooklog.Stream
import Hooklog.Template.Compiled
import Hooklog.Template.Placeholder
import Hooklog.Template.Spec
import Hooklog.Text.Case
import Hooklog.Text.Case.Context
import Hooklog.Text.Case.Table
import Hooklog.Text.Class
import Hooklog.Text.Class.Alphabetic
import Hooklog.Text.Class.Connector
import Hooklog.Text.Class.Mark
import Hooklog.Text.Class.Number
import Hooklog.Text.Class.Printable
import Hooklog.Text.Class.Recent
import Hooklog.Text.Quoted
import Hooklog.Text.Utf8
import Hooklog.Text.Words
import Hooklog.Time.Civil
import Hooklog.Time.Instant
import Hooklog.Time.Layout
import Hooklog.Time.Layout.Reader
import Hooklog.Time.Rfc3339
import Hooklog.Time.Rfc3339.Reader
import Hooklog.Time.Stamp
import Hooklog.Time.Zone
import Hooklog.Proofs.Text.Characters
import Hooklog.Proofs.Text.Decoding
import Hooklog.Proofs.Text.Lines
import Hooklog.Proofs.Catcher.LineMessages
import Hooklog.Proofs.Catcher.Chunks
import Hooklog.Proofs.Catcher.Grouping
import Hooklog.Proofs.Template.Source
import Hooklog.Proofs.Template.Positions
import Hooklog.Proofs.Formatter.Splice
import Hooklog.Proofs.Formatter.Values
import Hooklog.Proofs.Template.Items
import Hooklog.Proofs.Formatter.Interpretation
import Hooklog.Proofs.Formatter.Remaining
import Hooklog.Proofs.Text.Classes
import Hooklog.Proofs.Decimal.Integer
import Hooklog.Proofs.Text.Case
import Hooklog.Proofs.Text.Words
import Hooklog.Proofs.Template.Written
import Hooklog.Proofs.Template.Scanning
import Hooklog.Proofs.Template.RoundTrip
import Hooklog.Proofs.Sgr.Painted
import Hooklog.Proofs.Sgr.Sequences
import Hooklog.Proofs.Sgr.SequenceCase
import Hooklog.Proofs.Sgr.PlainCase
import Hooklog.Proofs.Sgr.PlainTimes
import Hooklog.Proofs.Sgr.PlainValues
import Hooklog.Proofs.Formatter.ColorModes
import Hooklog.Proofs.Formatter.Coloring
import Hooklog.Proofs.Formatter.Decoration
import Hooklog.Proofs.Formatter.Passes
import Hooklog.Proofs.Formatter.Wholeness
import Hooklog.Proofs.Logger.Deliveries
import Hooklog.Proofs.Logger.Accounting
import Hooklog.Proofs.FileTree.Ways
import Hooklog.Proofs.Text.Encoding
import Hooklog.Proofs.FileTree.Alike
import Hooklog.Proofs.Destination.LogFile
import Hooklog.Proofs.Store.Confinement
import Hooklog.Proofs.Store.Twins
import Hooklog.Proofs.Logger.Isolation
import Hooklog.Proofs.Catcher.Unmarked
import Hooklog.Proofs.Logger.Printing
import Hooklog.Proofs.Formatter.Remembering
import Hooklog.Proofs.Logger.Filtering
import Hooklog.Proofs.Destination.Contents
import Hooklog.Proofs.Logger.Portions
import Hooklog.Proofs.Store.FileHistory
import Hooklog.Proofs.Settings.FirstValue
import Hooklog.Proofs.Formatter.Origins
import Hooklog.Proofs.Destination.Directory
import Hooklog.Proofs.FileTree.Covering
import Hooklog.Proofs.Destination.Copies
import Hooklog.Proofs.Store.Reachable
import Hooklog.Proofs.Logger.Reachable
import Hooklog.Proofs.Logger.Following
import Hooklog.Proofs.Logger.Derived
import Hooklog.Proofs.Json.Strings
import Hooklog.Proofs.Level.Reading
import Hooklog.Proofs.Formatter.JsonLine
import Hooklog.Proofs.Logger.Registry
import Hooklog.Proofs.Logger.Bridge
import Hooklog.Proofs.Duration.Rounding
import Hooklog.Proofs.Duration.Within
import Hooklog.Proofs.Duration.Multiples
import Hooklog.Proofs.Decimal.Whole
import Hooklog.Proofs.Decimal.Positive
import Hooklog.Proofs.Duration.Reading
import Hooklog.Proofs.Duration.Nonzero
import Hooklog.Proofs.Formatter.Elapsed
import Hooklog.Proofs.Template.Reserved
import Hooklog.Proofs.Template.Joining
import Hooklog.Proofs.Formatter.Directives
import Hooklog.Proofs.Formatter.Building
import Hooklog.Proofs.Formatter.Slicing
import Hooklog.Proofs.Formatter.Stopping
import Hooklog.Proofs.Sgr.Grammar
import Hooklog.Proofs.Sgr.Removal
import Hooklog.Proofs.Sgr.Nesting
import Hooklog.Proofs.Level.Grammar
import Hooklog.Proofs.Logger.Disabled
import Hooklog.Proofs.Settings.Composition
import Hooklog.Proofs.Logger.Ceiling
import Hooklog.Proofs.Logger.PrintedLines
import Hooklog.Proofs.Logger.Flushing
import Hooklog.Proofs.Json.Numbers
import Hooklog.Proofs.Json.Objects
import Hooklog.Proofs.Field.RoundTrip
import Hooklog.Proofs.Catcher.Captures
import Hooklog.Proofs.Logger.Catching
import Hooklog.Proofs.Formatter.Sizing
