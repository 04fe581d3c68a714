import PushRelay.Connection.Reaction
import PushRelay.Service

/-!
# PushRelay.Client.Listener

How a client shows the packets that come in, and what it does as its
connection comes and goes: when the connection opens it subscribes to the
services it was started with, one after the other, and it tells the user.
If one of the subscriptions cannot be sent it fails, so that the connection
is not kept with a part of them.
-/

namespace PushRelay

/-- What a client does with a packet. -/
inductive ClientAction where
  /-- shows the packet to the user -/
  | show
deriving DecidableEq

/-- The service of a client with this name: the packet of the same name is
shown. -/
def clientService (name : String) (p : Protocol) : Except RelayError (Service ClientAction) :=
  Service.ofEntries name p [(name, some (.run .show))]

/-- The listener of a client. -/
structure ClientListener where
  /-- the services to subscribe to when the connection opens -/
  services : List (Service ClientAction)

/-- Subscribes to services up to the first one that cannot be sent, and
tells whether there was none. -/
def subscribeAll : List (Service ClientAction) → Reaction Bool
  | [] => .done true
  | s :: services =>
    .send (.packet s.subscribePacket) fun accepted =>
      if accepted then subscribeAll services else .done false

instance : Listener ClientListener where
  notify news l :=
    match news with
    | .state _ => .done (true, l)
    | .opened => .print (.text "* connected") ((subscribeAll l.services).map fun ok => (ok, l))
    | .closed (some code) reason =>
      .print (.text ("* disconnected (" ++ toString code ++ ": " ++ reason ++ ")"))
        (.done (true, l))
    | .closed none _ => .print (.text "* disconnected") (.done (true, l))
    | .failed message => .print (.text ("* error: " ++ message)) (.done (true, l))

instance : MessageHandler (Dispatcher ClientAction) where
  handle message d :=
    match d.resolve message with
    | .error e => .done (.error e, d)
    | .ok call =>
      match call.callback with
      | .noop => .done (.ok (), d)
      | .run .show => .print (.packet call.name call.data) (.done (.ok (), d))

end PushRelay
