import BuildRecorder.Main
import BuildRecorder.Program.Packages
import BuildRecorder.Database.Indexed
import BuildRecorder.Proofs.Arguments.RoundTrip
import BuildRecorder.Proofs.Json.Written
import BuildRecorder.Proofs.Text.Utf8
import BuildRecorder.Proofs.Database.Document
import BuildRecorder.Proofs.Files.Tree
import BuildRecorder.Proofs.Files.Disk
import BuildRecorder.Proofs.Database.Upsert
import BuildRecorder.Proofs.Store.Run
import BuildRecorder.Proofs.Store.Merge
import BuildRecorder.Proofs.Session.Run
import BuildRecorder.Proofs.Database.Encodable
import BuildRecorder.Proofs.Store.Stream
import BuildRecorder.Proofs.Arguments.First
import BuildRecorder.Proofs.Arguments.Automaton
import BuildRecorder.Proofs.Arguments.Quotes
import BuildRecorder.Proofs.Text.Case
import BuildRecorder.Proofs.Path.Basename
import BuildRecorder.Proofs.Path.Normal
import BuildRecorder.Proofs.Path.Characters
import BuildRecorder.Proofs.Compiler.Location
import BuildRecorder.Proofs.Compiler.Invocation
import BuildRecorder.Proofs.Database.Content
import BuildRecorder.Proofs.Store.Startup
import BuildRecorder.Proofs.Store.Calls
import BuildRecorder.Proofs.Store.Modes
import BuildRecorder.Proofs.Compiler.Scan
import BuildRecorder.Proofs.Compiler.Context
import BuildRecorder.Proofs.Compiler.Strategies
import BuildRecorder.Proofs.Compiler.Sources
import BuildRecorder.Proofs.Store.Close
import BuildRecorder.Proofs.Session.Lines
import BuildRecorder.Proofs.Program.Run
import BuildRecorder.Proofs.Program.Startup
import BuildRecorder.Proofs.Event.Reader
import BuildRecorder.Proofs.Store.WriteBack
import BuildRecorder.Proofs.Store.Open
import BuildRecorder.Proofs.Session.PassedOver
import BuildRecorder.Proofs.Session.Counters
import BuildRecorder.Proofs.Store.Kept
import BuildRecorder.Proofs.Path.Continue
import BuildRecorder.Proofs.Path.Absolute
import BuildRecorder.Proofs.Session.Compilers
import BuildRecorder.Proofs.Session.Refused
import BuildRecorder.Proofs.Settings.Combine
import BuildRecorder.Proofs.Settings.Overrides
import BuildRecorder.Proofs.Text.Lines
import BuildRecorder.Proofs.Event.Lines
import BuildRecorder.Proofs.Files.Reach
import BuildRecorder.Proofs.Path.Parent
import BuildRecorder.Proofs.Files.Opening
import BuildRecorder.Proofs.Store.Check
import BuildRecorder.Proofs.Database.Filled
import BuildRecorder.Proofs.Path.Partition
import BuildRecorder.Proofs.Json.Limits
import BuildRecorder.Proofs.Event.Limits
import BuildRecorder.Proofs.Store.GivenUp
