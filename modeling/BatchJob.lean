import BatchJob.ExitRecord
import BatchJob.Shutdown
import BatchJob.Console.Command
import BatchJob.Environment
import BatchJob.ProgramPath
import BatchJob.Text.Utf8
import BatchJob.Text.Alphanumeric
import BatchJob.Pipe
import BatchJob.Pipe.Shared
import BatchJob.FileSystem.System
import BatchJob.Dataset.Outlet
import BatchJob.OutputRoutes
import BatchJob.Rehearsal.MemoryDataset
import BatchJob.Console.Listener
import BatchJob.Rehearsal.ScriptedLauncher
import BatchJob.Rehearsal.RelayScene
import BatchJob.Toml.Document
import BatchJob.CommandLine
import BatchJob.Job.Basic
import BatchJob.Rehearsal.ScriptedChild
import BatchJob.Machine.Session
import BatchJob.Supervisor
import BatchJob.Lifecycle.ExitHandler
import BatchJob.Lifecycle.Threads
import BatchJob.Shutdown.Overlap
import BatchJob.Job.Attended
import BatchJob.Job.Record
import BatchJob.Job.SetUp
import BatchJob.Main
import BatchJob.Proofs.CommandLine
import BatchJob.Proofs.Console.Feed
import BatchJob.Proofs.Console.Grammar
import BatchJob.Proofs.Console.Lines
import BatchJob.Proofs.Console.Listening
import BatchJob.Proofs.Console.Stream
import BatchJob.Proofs.Dataset.Buffering
import BatchJob.Proofs.Dataset.Content
import BatchJob.Proofs.Dataset.Outlet
import BatchJob.Proofs.Dataset.Reading
import BatchJob.Proofs.Dataset.Streams
import BatchJob.Proofs.Dataset.Waiting
import BatchJob.Proofs.Dataset.Writing
import BatchJob.Proofs.Environment.Entries
import BatchJob.Proofs.Environment.Layers
import BatchJob.Proofs.Environment.Pairs
import BatchJob.Proofs.ExitRecord
import BatchJob.Proofs.FileSystem.Executables
import BatchJob.Proofs.FileSystem.Fifo
import BatchJob.Proofs.FileSystem.Opening
import BatchJob.Proofs.FileSystem.Regular
import BatchJob.Proofs.Job.Absence
import BatchJob.Proofs.Job.Accounting
import BatchJob.Proofs.Job.Attended
import BatchJob.Proofs.Job.Child
import BatchJob.Proofs.Job.ConsoleSetting
import BatchJob.Proofs.Job.Course
import BatchJob.Proofs.Job.Delivery
import BatchJob.Proofs.Job.Preparation
import BatchJob.Proofs.Job.SetUp
import BatchJob.Proofs.Job.SetUpFailure
import BatchJob.Proofs.Job.Turn
import BatchJob.Proofs.Lifecycle.Calls
import BatchJob.Proofs.Lifecycle.Collecting
import BatchJob.Proofs.Lifecycle.Exchanges
import BatchJob.Proofs.Lifecycle.History
import BatchJob.Proofs.Lifecycle.Threads
import BatchJob.Proofs.Machine.Arithmetic
import BatchJob.Proofs.Machine.Company
import BatchJob.Proofs.Machine.Images
import BatchJob.Proofs.Machine.Launching
import BatchJob.Proofs.Machine.Patterns
import BatchJob.Proofs.Machine.Steps
import BatchJob.Proofs.Machine.Tools
import BatchJob.Proofs.Pipe.Calls
import BatchJob.Proofs.Pipe.Lawful
import BatchJob.Proofs.Pipe.Sides
import BatchJob.Proofs.Pipe.Stream
import BatchJob.Proofs.Pipe.Transfer
import BatchJob.Proofs.ProgramPath
import BatchJob.Proofs.Relay.Blocking
import BatchJob.Proofs.Relay.Books
import BatchJob.Proofs.Relay.Company
import BatchJob.Proofs.Relay.Destinations
import BatchJob.Proofs.Relay.Drain
import BatchJob.Proofs.Relay.Ending
import BatchJob.Proofs.Relay.Ends
import BatchJob.Proofs.Relay.Failure
import BatchJob.Proofs.Relay.HalfClose
import BatchJob.Proofs.Relay.Input
import BatchJob.Proofs.Relay.Output
import BatchJob.Proofs.Relay.Progress
import BatchJob.Proofs.Relay.Sides
import BatchJob.Proofs.Relay.Sinks
import BatchJob.Proofs.Relay.Stop
import BatchJob.Proofs.Relay.Turn
import BatchJob.Proofs.Rehearsal.Schedule
import BatchJob.Proofs.Routing
import BatchJob.Proofs.Shutdown.Overlap
import BatchJob.Proofs.Text.Blank
import BatchJob.Proofs.Text.LetterCase
import BatchJob.Proofs.Text.Lines
import BatchJob.Proofs.Text.Octets
import BatchJob.Proofs.Text.Utf8
