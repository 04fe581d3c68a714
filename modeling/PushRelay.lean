import PushRelay.Calendar
import PushRelay.Client.Command
import PushRelay.Client.Listener
import PushRelay.Client.Options
import PushRelay.Client.Session
import PushRelay.Connection.Basic
import PushRelay.Connection.Reaction
import PushRelay.Connection.Recorder
import PushRelay.Decimal.Binary64
import PushRelay.Decimal.Layout
import PushRelay.Decimal.Reading
import PushRelay.Decimal.Shortest
import PushRelay.Dispatcher
import PushRelay.Error
import PushRelay.Json.Basic
import PushRelay.Json.Number
import PushRelay.Json.Printer
import PushRelay.Json.Quoted
import PushRelay.Json.Reader
import PushRelay.Json.Skipping
import PushRelay.Main
import PushRelay.Node.Basic
import PushRelay.Node.Equality
import PushRelay.Node.Report
import PushRelay.Packet.Basic
import PushRelay.Packet.Frame
import PushRelay.Packet.Typed
import PushRelay.Protocol
import PushRelay.ReadyState
import PushRelay.Registry.Basic
import PushRelay.Registry.Scripted
import PushRelay.Router.Basic
import PushRelay.Router.Directory
import PushRelay.Router.Outgoing
import PushRelay.Router.Peer
import PushRelay.Router.PushService
import PushRelay.Service
import PushRelay.Table
import PushRelay.Text.Basic
import PushRelay.Text.Casing
import PushRelay.Text.Lowercase
import PushRelay.Text.Printable
import PushRelay.Text.Quoted
import PushRelay.Transport.Basic
import PushRelay.Transport.Scripted
import PushRelay.Transport.Socket
import PushRelay.Uri
import PushRelay.Proofs.Connection.Live
import PushRelay.Proofs.Connection.Staleness
import PushRelay.Proofs.Json.Members
import PushRelay.Proofs.Json.Nesting
import PushRelay.Proofs.Json.Number
import PushRelay.Proofs.Json.Quoted
import PushRelay.Proofs.Json.RoundTrip
import PushRelay.Proofs.Json.Shape
import PushRelay.Proofs.Json.Skipping
import PushRelay.Proofs.Registry.Invariant
import PushRelay.Proofs.Router.Delivery
import PushRelay.Proofs.Packet.RoundTrip
import PushRelay.Proofs.Registry.Inbound
import PushRelay.Proofs.Connection.Closing
import PushRelay.Proofs.Router.Run
import PushRelay.Proofs.Router.Serving
import PushRelay.Proofs.Client.Run
import PushRelay.Proofs.Client.Showing
import PushRelay.Proofs.Router.Control
import PushRelay.Proofs.Router.Subscriptions
import PushRelay.Proofs.Router.Agreement
import PushRelay.Proofs.Router.Connections
import PushRelay.Proofs.Router.Isolation
import PushRelay.Proofs.Router.Sight
import PushRelay.Proofs.Registry.History
import PushRelay.Proofs.Connection.Accounting
import PushRelay.Proofs.Connection.Ledger
import PushRelay.Proofs.Connection.Senders
import PushRelay.Proofs.Connection.Lifecycle
import PushRelay.Proofs.Connection.Delivery
import PushRelay.Proofs.Node.Equality
import PushRelay.Proofs.Client.Sending
import PushRelay.Proofs.Client.Unsubscribing
import PushRelay.Proofs.Connection.Opening
import PushRelay.Proofs.Packet.Fields
import PushRelay.Proofs.Client.Reporting
import PushRelay.Proofs.Client.Tables
import PushRelay.Proofs.Registry.Refusals
import PushRelay.Proofs.Node.JsonEquality
import PushRelay.Proofs.Client.Lines
import PushRelay.Proofs.Client.Starting
import PushRelay.Proofs.Transport.Commands
import PushRelay.Proofs.Router.Catalogue
import PushRelay.Proofs.Connection.Watching
import PushRelay.Proofs.Connection.Adequacy
