import MediaSearch.Text.CodeRange
import MediaSearch.Text.WordCharacter
import MediaSearch.Text.Blank
import MediaSearch.Text.DecimalDigit
import MediaSearch.Text.Occurrence
import MediaSearch.Text.Line
import MediaSearch.Text.Printable
import MediaSearch.Text.LetterCase
import MediaSearch.Text.Quoted
import MediaSearch.Keyed
import MediaSearch.Numeral
import MediaSearch.Integer
import MediaSearch.Binary64
import MediaSearch.Binary64.Text
import MediaSearch.Number
import MediaSearch.Value
import MediaSearch.Scalar
import MediaSearch.Json
import MediaSearch.Calendar
import MediaSearch.Moment
import MediaSearch.Moment.IsoText
import MediaSearch.Vocabulary
import MediaSearch.Filter
import MediaSearch.Filter.Resolution
import MediaSearch.Phrase
import MediaSearch.Signal
import MediaSearch.Filter.Structured
import MediaSearch.Text.CamelCase
import MediaSearch.Folder
import MediaSearch.Session
import MediaSearch.Report
import MediaSearch.Yaml.Scalar
import MediaSearch.Yaml.Block
import MediaSearch.Yaml.Word
import MediaSearch.Yaml.Document
import MediaSearch.Settings.Files
import MediaSearch.Program
import MediaSearch.Main
import MediaSearch.Section
import MediaSearch.Settings
import MediaSearch.Settings.Layers
import MediaSearch.Query
import MediaSearch.Record
import MediaSearch.Record.Card
import MediaSearch.Proofs.Query.Slots
import MediaSearch.Proofs.Filter.Overlay
import MediaSearch.Proofs.Query.Defaults
import MediaSearch.Proofs.Query.Demand
import MediaSearch.Proofs.Filter.Written
import MediaSearch.Proofs.Signals.Extraction
import MediaSearch.Proofs.Signals.StructuredTwin
import MediaSearch.Proofs.Client.Requests
import MediaSearch.Proofs.Library.Rehearsal
import MediaSearch.Proofs.Client.Attempts
import MediaSearch.Proofs.Client.Translation
import MediaSearch.Proofs.Phrase.Readings
import MediaSearch.Proofs.Signals.Years
import MediaSearch.Proofs.Binary64.Arithmetic
import MediaSearch.Proofs.Moment.Range
import MediaSearch.Proofs.Record.Reading
import MediaSearch.Proofs.Query.Failure
import MediaSearch.Proofs.Query.Form
import MediaSearch.Proofs.Binary64.Exactness
import MediaSearch.Proofs.Query.Clock
import MediaSearch.Proofs.Signals.YearBounds
import MediaSearch.Proofs.Filter.Acceptance
import MediaSearch.Proofs.Library.Requests
import MediaSearch.Proofs.Library.PageSize
import MediaSearch.Proofs.Settings.Layers
import MediaSearch.Proofs.Settings.Paths
import MediaSearch.Proofs.Settings.Fields
import MediaSearch.Proofs.Settings.Acceptance
import MediaSearch.Proofs.Settings.Layering
import MediaSearch.Proofs.Command.Options
import MediaSearch.Proofs.Folder.Writing
import MediaSearch.Proofs.Library.Holdings
import MediaSearch.Proofs.Report.Saving
import MediaSearch.Proofs.Report.Tasks
import MediaSearch.Proofs.Program.Journal
import MediaSearch.Proofs.Program.Runs
import MediaSearch.Proofs.Program.Results
import MediaSearch.Proofs.Program.Token
import MediaSearch.Proofs.Phrase.LetterCase
import MediaSearch.Proofs.Phrase.Steps
import MediaSearch.Proofs.Phrase.Words
import MediaSearch.Proofs.Signals.Amounts
import MediaSearch.Proofs.Signals.Tables
import MediaSearch.Proofs.Signals.Range
import MediaSearch.Proofs.Signals.Ratings
import MediaSearch.Proofs.Signals.Sentence
import MediaSearch.Proofs.Signals.Phrasing
import MediaSearch.Proofs.Phrase.Surroundings
import MediaSearch.Proofs.Signals.Growth
import MediaSearch.Proofs.Text.Splitting
import MediaSearch.Proofs.Text.Endings
import MediaSearch.Proofs.Integer.Digits
import MediaSearch.Proofs.Record.Duration
import MediaSearch.Proofs.Binary64.Nearest
import MediaSearch.Proofs.Binary64.Layout
import MediaSearch.Proofs.Binary64.Shortest
import MediaSearch.Proofs.Value.Blank
import MediaSearch.Proofs.Library.Sections
import MediaSearch.Proofs.Record.Listing
import MediaSearch.Proofs.Json.Grammar
import MediaSearch.Proofs.Json.Tokens
import MediaSearch.Proofs.Json.Unambiguous
import MediaSearch.Proofs.Json.Numerals
import MediaSearch.Proofs.Json.Document
import MediaSearch.Proofs.Report.Payloads
import MediaSearch.Proofs.Report.Documents
import MediaSearch.Proofs.Journal.Targets
import MediaSearch.Proofs.Command.Keys
