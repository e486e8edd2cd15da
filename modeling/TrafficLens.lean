import TrafficLens.Json.Printer
import TrafficLens.Proofs.Analysis.History
import TrafficLens.Proofs.Analysis.Repetition
import TrafficLens.Proofs.Document.Coverage
import TrafficLens.Proofs.Document.Loading
import TrafficLens.Proofs.Document.Rearrangement
import TrafficLens.Proofs.Document.Repetition
import TrafficLens.Proofs.Program.Ledger
import TrafficLens.Proofs.Service.Agreement
import TrafficLens.Proofs.Service.Announcement
import TrafficLens.Proofs.Service.Concurrency
import TrafficLens.Proofs.Service.Processing
import TrafficLens.Proofs.Service.Resolution
import TrafficLens.Proofs.Schema.Exactness
import TrafficLens.Proofs.Schema.Rearrangement
import TrafficLens.Rehearsal.Disguise
import TrafficLens.Rehearsal.World
import TrafficLens.Service.Http
import TrafficLens.Service.Worker
import TrafficLens.Settings.Source
import TrafficLens.Proofs.Path.Slots
import TrafficLens.Proofs.Path.Imitation
import TrafficLens.Proofs.Path.Variation
import TrafficLens.Proofs.Service.Siblings
import TrafficLens.Proofs.Service.Archive
import TrafficLens.Proofs.Service.Journal
import TrafficLens.Proofs.Service.Generation
import TrafficLens.Proofs.Service.Windows
import TrafficLens.Proofs.Service.Remainder
import TrafficLens.Proofs.Analysis.Leaf
import TrafficLens.Proofs.Analysis.Delta
import TrafficLens.Proofs.Analysis.Query
import TrafficLens.Proofs.Service.Isolation
import TrafficLens.Proofs.Program.Tries
import TrafficLens.Proofs.Service.Rollup
import TrafficLens.Proofs.Service.Tally
import TrafficLens.Proofs.Service.Exhaustion
import TrafficLens.Proofs.Path.Refusal
import TrafficLens.Proofs.Analysis.Trigger
import TrafficLens.Proofs.Service.Replacement
import TrafficLens.Proofs.Path.Slashes
import TrafficLens.Proofs.Schema.Shape
import TrafficLens.Proofs.Document.WellFormed
import TrafficLens.Proofs.Service.GroupLinks
import TrafficLens.Proofs.Service.PageLinks
import TrafficLens.Proofs.Instant.Hour
import TrafficLens.Proofs.Analysis.Scanning
import TrafficLens.Proofs.Traffic.Queue
import TrafficLens.Proofs.Service.Round
import TrafficLens.Proofs.Document.Knowledge
