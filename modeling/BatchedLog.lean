import BatchedLog.Buffer
import BatchedLog.CommandLine.Arguments
import BatchedLog.CommandLine.Help
import BatchedLog.CommandLine.Input
import BatchedLog.CommandLine.Reach
import BatchedLog.CommandLine.Report
import BatchedLog.CommandLine.Run
import BatchedLog.Config.Basic
import BatchedLog.Config.Load
import BatchedLog.Config.Schema
import BatchedLog.Config.Validation
import BatchedLog.Context
import BatchedLog.Delivery.Logger
import BatchedLog.Delivery.Machine
import BatchedLog.Delivery.Run
import BatchedLog.Diagnostic
import BatchedLog.Disk.Basic
import BatchedLog.Disk.Changes
import BatchedLog.Disk.Error
import BatchedLog.Disk.Path
import BatchedLog.Disk.Writer
import BatchedLog.Double.Arithmetic
import BatchedLog.Double.Basic
import BatchedLog.Double.Shortest
import BatchedLog.Entry
import BatchedLog.Json.Basic
import BatchedLog.Json.Reader
import BatchedLog.Json.Scientific
import BatchedLog.Json.Text
import BatchedLog.Level
import BatchedLog.Main
import BatchedLog.Metrics
import BatchedLog.Registry
import BatchedLog.Schema.Mismatch
import BatchedLog.Session.Host
import BatchedLog.Session.Plan
import BatchedLog.Session.Process
import BatchedLog.Session.Run
import BatchedLog.Session.World
import BatchedLog.Sink.Console
import BatchedLog.Sink.Error
import BatchedLog.Sink.File
import BatchedLog.Sink.LineFormat
import BatchedLog.SocketAddress
import BatchedLog.Text.Printable
import BatchedLog.Text.Quoted
import BatchedLog.Text.Split
import BatchedLog.Text.WhiteSpace
import BatchedLog.Toml.Document
import BatchedLog.Toml.Quotation
import BatchedLog.Toml.Scalar
import BatchedLog.Toml.Tree
import BatchedLog.Toml.Value
import BatchedLog.Wiring
import BatchedLog.Proofs.Delivery.Rules
import BatchedLog.Proofs.Delivery.Station
import BatchedLog.Proofs.Delivery.Lane
import BatchedLog.Proofs.Delivery.Turns
import BatchedLog.Proofs.Delivery.Ledger
import BatchedLog.Proofs.Delivery.Conservation
import BatchedLog.Proofs.Delivery.Course
import BatchedLog.Proofs.Delivery.Drain
import BatchedLog.Proofs.Delivery.Progress
import BatchedLog.Proofs.Delivery.Alone
import BatchedLog.Proofs.Delivery.Chunks
import BatchedLog.Proofs.Session.Plain
import BatchedLog.Proofs.CommandLine.Pipe
import BatchedLog.Proofs.Delivery.Endings
import BatchedLog.Proofs.Session.Alike
import BatchedLog.Proofs.Session.Endings
import BatchedLog.Proofs.Process.Independent
import BatchedLog.Proofs.Process.Singleton
import BatchedLog.Proofs.Json.Limit
import BatchedLog.Proofs.Json.Nesting
import BatchedLog.Proofs.Json.RoundTrip
import BatchedLog.Proofs.Disk.Opening
import BatchedLog.Proofs.Sink.File
import BatchedLog.Proofs.Sink.Lines
import BatchedLog.Proofs.Sink.JsonLines
import BatchedLog.Proofs.Sink.TextLines
import BatchedLog.Proofs.Session.Files
import BatchedLog.Proofs.Session.Series
import BatchedLog.Proofs.Session.Targets
import BatchedLog.Proofs.CommandLine.Lines
import BatchedLog.Proofs.CommandLine.Batches
import BatchedLog.Proofs.Delivery.Flow
import BatchedLog.Proofs.Session.Books
import BatchedLog.Proofs.Session.Custody
import BatchedLog.Proofs.Session.Metrics
import BatchedLog.Proofs.Config.Accepted
import BatchedLog.Proofs.Wiring.Declared
import BatchedLog.Proofs.Disk.Additions
import BatchedLog.Proofs.CommandLine.Check
import BatchedLog.Proofs.CommandLine.Footprint
import BatchedLog.Proofs.Session.Context
import BatchedLog.Proofs.Session.WriteOnce
import BatchedLog.Proofs.Wiring.Builder
import BatchedLog.Proofs.Delivery.Dispatch
import BatchedLog.Proofs.Delivery.Calls
import BatchedLog.Proofs.Delivery.Between
import BatchedLog.Proofs.Delivery.Receipts
import BatchedLog.Proofs.Delivery.Bounded
import BatchedLog.Proofs.Delivery.Thrift
import BatchedLog.Proofs.Session.Scripts
import BatchedLog.Proofs.Delivery.Stamps
import BatchedLog.Proofs.Config.Lossless
import BatchedLog.Proofs.Sink.Residue
import BatchedLog.Proofs.Buffer.Runs
import BatchedLog.Proofs.Level.Spellings
