import SpaGateway.Address
import SpaGateway.Address.Parser
import SpaGateway.Address.Target
import SpaGateway.Clock
import SpaGateway.Command
import SpaGateway.Command.Translator
import SpaGateway.CommandLine
import SpaGateway.Config
import SpaGateway.Config.Datum
import SpaGateway.Config.Decode
import SpaGateway.Config.Json
import SpaGateway.Config.Toml
import SpaGateway.Connection
import SpaGateway.Connection.Direct
import SpaGateway.Connection.Host
import SpaGateway.Fault
import SpaGateway.Forward
import SpaGateway.Forward.Index
import SpaGateway.Frame
import SpaGateway.Frame.Decoder
import SpaGateway.Json
import SpaGateway.Json.Number
import SpaGateway.Json.Parser
import SpaGateway.Json.Printer
import SpaGateway.Main
import SpaGateway.Memory
import SpaGateway.Network
import SpaGateway.Octets
import SpaGateway.Octets.Text
import SpaGateway.Package
import SpaGateway.Payload
import SpaGateway.Payload.Parser
import SpaGateway.Relay
import SpaGateway.Relay.Greeting
import SpaGateway.Relay.Host
import SpaGateway.Session
import SpaGateway.Session.Key
import SpaGateway.Text.Blank
import SpaGateway.Text.Decimal
import SpaGateway.Text.Double
import SpaGateway.Text.Escape
import SpaGateway.Text.Numeral
import SpaGateway.Toml.Parser
import SpaGateway.Toml.Scalar
import SpaGateway.Toml.Table
import SpaGateway.Proofs.Octets.Mark
import SpaGateway.Proofs.Frame.Image
import SpaGateway.Proofs.Frame.Stream
import SpaGateway.Proofs.Memory.Update
import SpaGateway.Proofs.Connection.Turn
import SpaGateway.Proofs.Connection.MemoryView
import SpaGateway.Proofs.Connection.Run
import SpaGateway.Proofs.Connection.SyncView
import SpaGateway.Proofs.Connection.Schedule
import SpaGateway.Proofs.Connection.Mirror
import SpaGateway.Proofs.Connection.Download
import SpaGateway.Proofs.History
import SpaGateway.Proofs.Forward.Table
import SpaGateway.Proofs.Forward.History
import SpaGateway.Proofs.Relay.Routing
import SpaGateway.Proofs.Relay.Transparency
import SpaGateway.Proofs.Payload.Layout
import SpaGateway.Proofs.Command.Rendering
import SpaGateway.Proofs.Connection.Ledger
import SpaGateway.Proofs.Connection.CommandView
import SpaGateway.Proofs.Connection.Delivery
import SpaGateway.Proofs.Payload.Bijection
import SpaGateway.Proofs.Session.Call
import SpaGateway.Proofs.Session.Safety
import SpaGateway.Proofs.Session.Timing
import SpaGateway.Proofs.Relay.Hello
import SpaGateway.Proofs.Forward.Expiry
import SpaGateway.Proofs.Relay.Upkeep
import SpaGateway.Proofs.Relay.Lateness
import SpaGateway.Proofs.Relay.Takeover
import SpaGateway.Proofs.Relay.Agreement
import SpaGateway.Proofs.Memory.Partition
import SpaGateway.Proofs.Connection.Reassembly
import SpaGateway.Proofs.Connection.Invariant
import SpaGateway.Proofs.Connection.Lifecycle
import SpaGateway.Proofs.Connection.Completion
import SpaGateway.Proofs.Connection.Isolation
import SpaGateway.Proofs.Frame.Field
import SpaGateway.Proofs.Session.Readability
import SpaGateway.Proofs.Command.Conveyance
import SpaGateway.Proofs.Relay.Attachment
import SpaGateway.Proofs.Connection.Overhearing
import SpaGateway.Proofs.Frame.Segments
import SpaGateway.Proofs.Memory.Diff
import SpaGateway.Proofs.Memory.History
import SpaGateway.Proofs.Session.Deadline
import SpaGateway.Proofs.Connection.Wake
import SpaGateway.Proofs.Frame.Resynchronization
import SpaGateway.Proofs.Session.Polling
import SpaGateway.Proofs.Session.Failures
import SpaGateway.Proofs.Connection.Pacing
import SpaGateway.Proofs.Forward.Sweep
import SpaGateway.Proofs.Command.Numbering
import SpaGateway.Proofs.Connection.Replies
import SpaGateway.Proofs.Relay.Greeting
import SpaGateway.Proofs.Connection.Priming
import SpaGateway.Proofs.Text.Numeral
import SpaGateway.Proofs.Address.RoundTrip
import SpaGateway.Proofs.Address.Target
