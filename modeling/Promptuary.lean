import Promptuary.Text.Word
import Promptuary.Text.Digit
import Promptuary.Text.Printable
import Promptuary.Text.Case
import Promptuary.Text.Blank
import Promptuary.Text.Quoted
import Promptuary.Text.Layout
import Promptuary.Text.Entity
import Promptuary.Number.Reading
import Promptuary.Calendar.Iso
import Promptuary.Calendar.Window
import Promptuary.Json.Reader
import Promptuary.Json.Writer
import Promptuary.Schema.Shape
import Promptuary.Pattern.Match
import Promptuary.Template.Compile
import Promptuary.Template.Criteria
import Promptuary.Calendar.Order
import Promptuary.Execution.Recorder
import Promptuary.Snapshot.Minute
import Promptuary.Snapshot.Summary
import Promptuary.Digest.Sha256
import Promptuary.Event.Bus
import Promptuary.Engine.Basic
import Promptuary.Proofs.Template.Passes
import Promptuary.Proofs.Operation
import Promptuary.Proofs.Store.History
import Promptuary.Proofs.Store.Change
import Promptuary.Proofs.Store.Run
import Promptuary.Proofs.Store.Conservation
import Promptuary.Proofs.Number.Digits
import Promptuary.Proofs.Template.Label
import Promptuary.Proofs.Schema.Shape
import Promptuary.Proofs.Store.Revision
import Promptuary.Proofs.Calendar.Date
import Promptuary.Proofs.Calendar.Iso
import Promptuary.Proofs.Distinct
import Promptuary.Proofs.Template.Plain
import Promptuary.Proofs.Datum.Stored
import Promptuary.Proofs.Template.Stored
import Promptuary.Proofs.Store.Sound
import Promptuary.Proofs.Store.Reload
import Promptuary.Proofs.Statistics.Exact
import Promptuary.Proofs.Statistics.Percentile
import Promptuary.Proofs.Statistics.Spread
import Promptuary.Proofs.Snapshot.Amounts
import Promptuary.Proofs.Store.Labels
import Promptuary.Proofs.Store.Loading
import Promptuary.Proofs.Store.Atomicity
import Promptuary.Proofs.Store.Unreadable
import Promptuary.Proofs.Store.Restart
import Promptuary.Proofs.Store.Writing
import Promptuary.Proofs.Outcome
import Promptuary.Proofs.Entries
import Promptuary.Proofs.Event.Emission
import Promptuary.Proofs.Event.Standing
import Promptuary.Proofs.Execution.Recording
import Promptuary.Proofs.Execution.Run
import Promptuary.Proofs.Snapshot.Rollup
import Promptuary.Proofs.Snapshot.Consistency
import Promptuary.Proofs.Calendar.Order
import Promptuary.Proofs.Calendar.Window
import Promptuary.Proofs.Analysis.Shelves
import Promptuary.Proofs.Analysis.Recording
import Promptuary.Proofs.Analysis.Minute
import Promptuary.Proofs.Analysis.Stock
import Promptuary.Proofs.Analysis.Aggregation
import Promptuary.Proofs.Analysis.Timers
import Promptuary.Proofs.Text.Layout
import Promptuary.Proofs.Template.Reading
import Promptuary.Proofs.Template.Defaults
import Promptuary.Proofs.Template.Insertion
import Promptuary.Proofs.Store.Retrieval
import Promptuary.Proofs.Template.References
import Promptuary.Proofs.Analysis.Repetition
import Promptuary.Proofs.Snapshot.Counts
import Promptuary.Proofs.Analysis.Range
import Promptuary.Proofs.Analysis.Idempotence
import Promptuary.Proofs.Analysis.Consistency
import Promptuary.Proofs.Template.Valid
import Promptuary.Proofs.Store.Valid
import Promptuary.Proofs.Json.Number
import Promptuary.Proofs.Json.Text
import Promptuary.Proofs.Json.RoundTrip
import Promptuary.Proofs.Json.Row
import Promptuary.Proofs.Storage.Keeping
import Promptuary.Proofs.Storage.Refinement
import Promptuary.Proofs.Template.Verdict
import Promptuary.Proofs.Snapshot.Custom
import Promptuary.Proofs.Analysis.Ledger
import Promptuary.Proofs.Analysis.Spreads
import Promptuary.Proofs.Store.Numbering
import Promptuary.Proofs.Template.Evaluation
import Promptuary.Proofs.Template.Missing
import Promptuary.Proofs.Json.Integers
import Promptuary.Proofs.Template.Lenient
import Promptuary.Proofs.Store.Patch
import Promptuary.Proofs.Calendar.Tiling
import Promptuary.Proofs.Snapshot.Summary
import Promptuary.Proofs.Number.Ordering
import Promptuary.Proofs.Execution.Score
import Promptuary.Proofs.Store.Searching
import Promptuary.Proofs.Text.Markup
import Promptuary.Proofs.Template.Escaping
import Promptuary.Proofs.Statistics.Guarded
import Promptuary.Proofs.Statistics.Regression
import Promptuary.Proofs.Event.Delivery
import Promptuary.Proofs.Template.Faithful
import Promptuary.Proofs.Store.Succession
import Promptuary.Proofs.Template.StandIn
import Promptuary.Proofs.Analysis.Anomaly
import Promptuary.Proofs.Number.Nearest
import Promptuary.Proofs.Analysis.Comparison
