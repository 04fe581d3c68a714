import PushRelay.Dispatcher
import PushRelay.Router.Directory

/-!
# PushRelay.Router.Peer

What a router makes of the packets that come in over one connection.

1. The two control packets subscribe the connection to the service that
   their data names, and unsubscribe it.  A control packet without the
   name of a service is ignored.
2. Any other packet of the protocol is accepted and does nothing.
3. A frame that cannot be read or dispatched is ignored; the connection
   goes on.
-/

namespace PushRelay

/-- What a control packet asks for. -/
inductive Control where
  | subscribe
  | unsubscribe
deriving DecidableEq

/-- A connection as its router sees it. -/
structure Peer where
  /-- the number by which services know the connection -/
  id : Nat
  /-- the number of the queue for its frames -/
  queue : Nat
  dispatcher : Dispatcher Control

/-- The peer with this number and queue; its packets are those that the
protocol has now. -/
def Peer.ofProtocol (p : Protocol) (id queue : Nat) : Except RelayError Peer :=
  match (Dispatcher.ofProtocol p).register subscribeName (.run .subscribe) with
  | .error e => .error e
  | .ok d => (d.register unsubscribeName (.run .unsubscribe)).map fun d => ⟨id, queue, d⟩

/-- The service that the data of a control packet names. -/
def serviceOf? (data : Json) : Option String := (data.member? serviceMember).bind Json.string?

namespace Directory

/-- Does what a control packet of a peer asks for. -/
def control (d : Directory) (peer : Peer) (data : Json) (control : Control) : Directory :=
  match serviceOf? data, control with
  | none, _ => d
  | some service, .subscribe => (d.subscribe service peer.id peer.queue).2
  | some service, .unsubscribe => (d.unsubscribe service peer.id).2

/-- Does what a call of a peer asks for. -/
def perform (d : Directory) (peer : Peer) (call : Call Control) : Directory :=
  match call.callback with
  | .noop => d
  | .run control => d.control peer call.data control

/-- Handles a message of a peer. -/
def handle (d : Directory) (peer : Peer) (message : Json) : Except RelayError Unit × Directory :=
  match peer.dispatcher.resolve message with
  | .error e => (.error e, d)
  | .ok call => (.ok (), d.perform peer call)

/-- The call for a frame of a peer. -/
def callOf (peer : Peer) (text : String) : Except RelayError (Call Control) :=
  match Packet.decode text with
  | .error e => .error e
  | .ok p => peer.dispatcher.resolvePacket p

/-- Takes a frame of a peer. -/
def receive (d : Directory) (peer : Peer) (text : String) : Directory :=
  match callOf peer text with
  | .error _ => d
  | .ok call => d.perform peer call

end Directory

end PushRelay
