import PoolArbiter.Adaptation
import PoolArbiter.Admission.Guard
import PoolArbiter.Admission.Queues
import PoolArbiter.Binary64
import PoolArbiter.Collection
import PoolArbiter.CommandLine.Arguments
import PoolArbiter.CommandLine.Help
import PoolArbiter.CommandLine.Load
import PoolArbiter.CommandLine.Run
import PoolArbiter.CommandLine.Startup
import PoolArbiter.Configuration.Basic
import PoolArbiter.Configuration.Document
import PoolArbiter.Configuration.Override
import PoolArbiter.Configuration.Validity
import PoolArbiter.Controller.Basic
import PoolArbiter.Controller.Loop
import PoolArbiter.Controller.Operation
import PoolArbiter.Controller.Round
import PoolArbiter.Data.KeyMap
import PoolArbiter.Data.Least
import PoolArbiter.Data.Recent
import PoolArbiter.Data.Word
import PoolArbiter.Decimal.Basic
import PoolArbiter.Decimal.Notation
import PoolArbiter.Decimal.Reading
import PoolArbiter.Environment.Basic
import PoolArbiter.Environment.VariableFile
import PoolArbiter.Feed
import PoolArbiter.Ledger
import PoolArbiter.Main
import PoolArbiter.Outcome
import PoolArbiter.Output.Clock
import PoolArbiter.Output.Json
import PoolArbiter.Output.Line
import PoolArbiter.Policy
import PoolArbiter.Proofs.Adaptation.PolicyInForce
import PoolArbiter.Proofs.Adaptation.Windows
import PoolArbiter.Proofs.Admission.Contents
import PoolArbiter.Proofs.Admission.Refusals
import PoolArbiter.Proofs.Admission.Room
import PoolArbiter.Proofs.Admission.Seniority
import PoolArbiter.Proofs.Collection.Accounting
import PoolArbiter.Proofs.Collection.Delivery
import PoolArbiter.Proofs.Collection.Integrity
import PoolArbiter.Proofs.Collection.LateFailures
import PoolArbiter.Proofs.Collection.Memory
import PoolArbiter.Proofs.Collection.Poll
import PoolArbiter.Proofs.Collection.RecentHits
import PoolArbiter.Proofs.Collection.Relevance
import PoolArbiter.Proofs.Collection.Stream
import PoolArbiter.Proofs.Collection.Verdicts
import PoolArbiter.Proofs.Configuration.Acceptance
import PoolArbiter.Proofs.Configuration.Capacities
import PoolArbiter.Proofs.Configuration.Overrides
import PoolArbiter.Proofs.Configuration.Precedence
import PoolArbiter.Proofs.Configuration.Settings
import PoolArbiter.Proofs.Configuration.Tests
import PoolArbiter.Proofs.Custody.Basic
import PoolArbiter.Proofs.Custody.Departures
import PoolArbiter.Proofs.Custody.ExactlyOnce
import PoolArbiter.Proofs.Custody.Headroom
import PoolArbiter.Proofs.Custody.Ledger
import PoolArbiter.Proofs.Custody.Operations
import PoolArbiter.Proofs.Custody.Recall
import PoolArbiter.Proofs.Custody.Refusals
import PoolArbiter.Proofs.Custody.Replay
import PoolArbiter.Proofs.Custody.Round
import PoolArbiter.Proofs.Custody.Seniority
import PoolArbiter.Proofs.Faults.Bookkeeping
import PoolArbiter.Proofs.Faults.Excess
import PoolArbiter.Proofs.Faults.Retries
import PoolArbiter.Proofs.Faults.Tally
import PoolArbiter.Proofs.Floats.Bits
import PoolArbiter.Proofs.Floats.Means
import PoolArbiter.Proofs.Floats.Order
import PoolArbiter.Proofs.Lifetime
import PoolArbiter.Proofs.Loop.Course
import PoolArbiter.Proofs.Loop.Delivery
import PoolArbiter.Proofs.Output.Calendar
import PoolArbiter.Proofs.Printing.Assembly
import PoolArbiter.Proofs.Printing.Configuration
import PoolArbiter.Proofs.Printing.Digits
import PoolArbiter.Proofs.Printing.Floats
import PoolArbiter.Proofs.Printing.Lines
import PoolArbiter.Proofs.Printing.Numbers
import PoolArbiter.Proofs.Printing.Quoting
import PoolArbiter.Proofs.Printing.Rounding
import PoolArbiter.Proofs.Printing.Shortest
import PoolArbiter.Proofs.Quality.Counting
import PoolArbiter.Proofs.Quality.Level
import PoolArbiter.Proofs.Quality.Runs
import PoolArbiter.Proofs.Round.Books
import PoolArbiter.Proofs.Round.Dispatch
import PoolArbiter.Proofs.Round.Entries
import PoolArbiter.Proofs.Round.Frame
import PoolArbiter.Proofs.Round.Loads
import PoolArbiter.Proofs.Round.Named
import PoolArbiter.Proofs.Round.Oversight
import PoolArbiter.Proofs.Round.Pool
import PoolArbiter.Proofs.Round.Queues
import PoolArbiter.Proofs.Round.Quiet
import PoolArbiter.Proofs.Round.Results
import PoolArbiter.Proofs.Round.Slots
import PoolArbiter.Proofs.Round.Tenure
import PoolArbiter.Proofs.Round.Timeouts
import PoolArbiter.Proofs.Search.Disjointness
import PoolArbiter.Proofs.Search.FirstHit
import PoolArbiter.Proofs.Search.Partition
import PoolArbiter.Proofs.Search.Slices
import PoolArbiter.Proofs.Selection.Assigning
import PoolArbiter.Proofs.Selection.Choice
import PoolArbiter.Proofs.Selection.Maximal
import PoolArbiter.Proofs.Selection.Pairing
import PoolArbiter.Proofs.Selection.Ranking
import PoolArbiter.Proofs.Selection.Serving
import PoolArbiter.Proofs.Starvation.Alignment
import PoolArbiter.Proofs.Starvation.Assurance
import PoolArbiter.Proofs.Starvation.Freedom
import PoolArbiter.Proofs.Starvation.Rivals
import PoolArbiter.Proofs.Starvation.Schedule
import PoolArbiter.Proofs.Starvation.Service
import PoolArbiter.Proofs.Starvation.Window
import PoolArbiter.Proofs.Termination.Allowance
import PoolArbiter.Proofs.Termination.Bound
import PoolArbiter.Proofs.Termination.Round
import PoolArbiter.Proofs.Thermal.Ceiling
import PoolArbiter.Proofs.Thermal.Hysteresis
import PoolArbiter.Proofs.Trust.Counting
import PoolArbiter.Proofs.Trust.Exclusion
import PoolArbiter.Proofs.Trust.Gate
import PoolArbiter.Proofs.Trust.Violations
import PoolArbiter.Proofs.Words.Arithmetic
import PoolArbiter.Proofs.Words.Bytes
import PoolArbiter.Proofs.Words.Excess
import PoolArbiter.Proofs.Words.Phases
import PoolArbiter.Proofs.Words.Range
import PoolArbiter.Proofs.Words.Round
import PoolArbiter.Proofs.Words.Run
import PoolArbiter.Proofs.Words.Totals
import PoolArbiter.Proofs.Worker.Freeing
import PoolArbiter.Proofs.Worker.Soundness
import PoolArbiter.Proofs.Worker.Working
import PoolArbiter.Quality
import PoolArbiter.Refusal
import PoolArbiter.Search.Nonce
import PoolArbiter.Search.Range
import PoolArbiter.Search.Sha256
import PoolArbiter.Search.Simulation
import PoolArbiter.Search.Workload
import PoolArbiter.Text.Alphanumeric
import PoolArbiter.Text.Blank
import PoolArbiter.Text.Hex
import PoolArbiter.Text.Terminal
import PoolArbiter.Text.UpperCase
import PoolArbiter.Thermal
import PoolArbiter.Tier
import PoolArbiter.Toml.Document
import PoolArbiter.Toml.Letter
import PoolArbiter.Toml.Nested
import PoolArbiter.Toml.Number
import PoolArbiter.Toml.Printing
import PoolArbiter.Toml.Quoted
import PoolArbiter.Toml.Value
import PoolArbiter.Trust
import PoolArbiter.Work
import PoolArbiter.Worker.Pool
import PoolArbiter.Worker.Slot
