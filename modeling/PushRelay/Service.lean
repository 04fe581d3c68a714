import PushRelay.Dispatcher

/-!
# PushRelay.Service

What a client knows of a service: its name, the callbacks for the packets
that the service pushes, and the two control packets by which it is
subscribed to and unsubscribed from.  Both carry the name of the service.
-/

namespace PushRelay

variable {κ : Type}

structure Service (κ : Type) where
  name : String
  subscribeFactory : Packet.Factory
  unsubscribeFactory : Packet.Factory
  /-- callbacks for the packets that the service pushes -/
  handlers : Table String (Callback κ)

namespace Service

/-- The callbacks of a list in which every entry must have one; the last of
a name stays. -/
def handlersOf : List (String × Option (Callback κ)) → Table String (Callback κ) →
    Except RelayError (Table String (Callback κ))
  | [], t => .ok t
  | (name, none) :: _, _ => .error (.malformedHandlerMap name)
  | (name, some callback) :: entries, t => handlersOf entries (t.insert name callback)

/-- The factory of a control packet that the protocol must have. -/
def control (p : Protocol) (name : String) : Except RelayError Packet.Factory :=
  match p.get? name with
  | some factory => .ok factory
  | none => .error (.unknownPacket name)

/-- The service with this name and these callbacks, over a protocol that
has the control packets. -/
def ofEntries (name : String) (p : Protocol) (entries : List (String × Option (Callback κ))) :
    Except RelayError (Service κ) :=
  if name = "" then .error .nameRequired
  else match handlersOf entries ∅ with
    | .error e => .error e
    | .ok handlers =>
      match control p subscribeName with
      | .error e => .error e
      | .ok subscribeFactory =>
        match control p unsubscribeName with
        | .error e => .error e
        | .ok unsubscribeFactory => .ok ⟨name, subscribeFactory, unsubscribeFactory, handlers⟩

/-- The names of the packets that the service pushes, ascending. -/
def packets (s : Service κ) : List String := s.handlers.keys

/-- The packet that subscribes to the service. -/
def subscribePacket (s : Service κ) : Packet Json :=
  s.subscribeFactory.create (servicePayload s.name)

/-- The packet that unsubscribes from the service. -/
def unsubscribePacket (s : Service κ) : Packet Json :=
  s.unsubscribeFactory.create (servicePayload s.name)

/-- Registers the callbacks of the service, in the order of their names. -/
def registerInto (s : Service κ) (d : Dispatcher κ) : Except RelayError Unit × Dispatcher κ :=
  d.registerAll (s.handlers.entries.map fun e => (e.1, some e.2))

/-- The text of a service in a report. -/
def report (s : Service κ) : String :=
  "Service \x7b name: " ++ Text.quoted s.name ++ ", packets: " ++ Text.quotedList s.packets
    ++ " \x7d"

end Service

end PushRelay
