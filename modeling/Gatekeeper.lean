import Gatekeeper.SortedMap
import Gatekeeper.Decimal
import Gatekeeper.Error
import Gatekeeper.Ident
import Gatekeeper.Decision
import Gatekeeper.Uri
import Gatekeeper.SetMap
import Gatekeeper.Json.Tree
import Gatekeeper.Json.Printer
import Gatekeeper.Json.Parser
import Gatekeeper.Json.Range
import Gatekeeper.Json.Decoder
import Gatekeeper.Safety.Data
import Gatekeeper.Safety.Encoding
import Gatekeeper.Encoding
import Gatekeeper.State.Basic
import Gatekeeper.State.Validity
import Gatekeeper.State.Encoding
import Gatekeeper.State.Draft
import Gatekeeper.State.Pool
import Gatekeeper.Policy.Scheme
import Gatekeeper.Policy.UidTable
import Gatekeeper.Policy.Set
import Gatekeeper.Policy.Session
import Gatekeeper.Service
import Gatekeeper.Report
import Gatekeeper.Listener.CallbackList
import Gatekeeper.Listener.Switchboard
import Gatekeeper.Listener.Delivery
import Gatekeeper.Listener.Registry
import Gatekeeper.Sink.Device
import Gatekeeper.Sink.Outlet
import Gatekeeper.Sink.RowStream
import Gatekeeper.Scenario.Event
import Gatekeeper.Scenario.Decoding
import Gatekeeper.Sink.Spec
import Gatekeeper.Replay
import Gatekeeper.Text.Visible
import Gatekeeper.Text.Quoted
import Gatekeeper.CommandLine
import Gatekeeper.Main
import Gatekeeper.Proofs.SortedMap
import Gatekeeper.Proofs.SetMap
import Gatekeeper.Proofs.SetMapRuns
import Gatekeeper.Proofs.State.Decisions
import Gatekeeper.Proofs.State.Draft
import Gatekeeper.Proofs.State.Records
import Gatekeeper.Proofs.Policy.Commands
import Gatekeeper.Proofs.Policy.Runs
import Gatekeeper.Proofs.Policy.Registry
import Gatekeeper.Proofs.Policy.Builtin
import Gatekeeper.Proofs.Policy.Bookkeeping
import Gatekeeper.Proofs.Policy.Announcements
import Gatekeeper.Proofs.Policy.DecisionHistory
import Gatekeeper.Proofs.Service
import Gatekeeper.Proofs.State.Storage
import Gatekeeper.Proofs.Policy.Canonical
import Gatekeeper.Proofs.Policy.Sharing
import Gatekeeper.Proofs.Listener.Delivery
import Gatekeeper.Proofs.Listener.Registry
import Gatekeeper.Proofs.Listener.RegistryRuns
import Gatekeeper.Proofs.Json.Text
import Gatekeeper.Proofs.Sink.Lines
import Gatekeeper.Proofs.Sink.Outlet
import Gatekeeper.Proofs.Json.RoundTrip
import Gatekeeper.Proofs.Safety.Encoding
import Gatekeeper.Proofs.Sink.Rows
import Gatekeeper.Proofs.Sink.Framing
import Gatekeeper.Proofs.Json.Decoder
import Gatekeeper.Proofs.Replay.Steps
import Gatekeeper.Proofs.Replay.Stopping
import Gatekeeper.Proofs.Replay.Audience
import Gatekeeper.Proofs.Replay.Halves
import Gatekeeper.Proofs.Replay.Listening
import Gatekeeper.Proofs.Json.Layout
import Gatekeeper.Proofs.CommandLine
import Gatekeeper.Proofs.Uri
import Gatekeeper.Proofs.Encoding
import Gatekeeper.Proofs.Json.Range
import Gatekeeper.Proofs.Json.Record
import Gatekeeper.Proofs.Safety.Spelling
import Gatekeeper.Proofs.Scenario.Spelling
import Gatekeeper.Proofs.Scenario.Reading
import Gatekeeper.Proofs.State.Validity
import Gatekeeper.Proofs.Policy.Routing
import Gatekeeper.Proofs.Policy.TableWrites
import Gatekeeper.Proofs.Policy.CopyOnWrite
import Gatekeeper.Proofs.Uid
import Gatekeeper.Proofs.Policy.Effects
import Gatekeeper.Proofs.Policy.Independence
import Gatekeeper.Proofs.Policy.Undoing
import Gatekeeper.Proofs.Report
