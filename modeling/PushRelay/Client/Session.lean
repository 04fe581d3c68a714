import PushRelay.Client.Command
import PushRelay.Client.Listener
import PushRelay.Connection.Basic

/-!
# PushRelay.Client.Session

A client: a connection, a protocol that grows with the services that the
user subscribes to, and those services.

The services that a client was started with are subscribed to by its
listener.  Only those that the user subscribed to by a command can be
unsubscribed from by one.  A command that cannot be carried out says so to
the user and changes nothing else.
-/

namespace PushRelay

/-- Where a client connects to if nothing else is chosen. -/
def defaultUrl : String := "ws://127.0.0.1:8080"

/-- A client whose transports are of the kind `τ`, made by a `γ`. -/
structure Client (γ τ : Type) where
  connection : Connection γ τ (Dispatcher ClientAction) ClientListener
  /-- the services that were subscribed to by a command -/
  services : Table String (Service ClientAction) := ∅

namespace Client

variable {γ τ : Type}

/-- Makes and registers the services with the given names. -/
def startServices (d : Dispatcher ClientAction) :
    List String → Except RelayError (List (Service ClientAction) × Dispatcher ClientAction)
  | [] => .ok ([], d)
  | name :: names =>
    match clientService name d.protocol with
    | .error e => .error e
    | .ok s =>
      match s.registerInto d with
      | (.error e, _) => .error e
      | (.ok _, d) => (startServices d names).map fun (services, d) => (s :: services, d)

/-- The client for an address that subscribes to the given services
whenever its connection opens. -/
def start (url : String) (services : List String) (connector : γ) :
    Except RelayError (Client γ τ) :=
  match startServices (.ofProtocol .net) services with
  | .error e => .error e
  | .ok (services, d) =>
    (Connection.ofUrl url connector d ⟨services⟩).map fun c => { connection := c }

/-- The protocol of a client. -/
def protocol (c : Client γ τ) : Protocol := c.connection.handler.protocol

/-- Writes a line for the user. -/
def print (c : Client γ τ) (text : String) : Client γ τ :=
  { c with connection := c.connection.note (.printed (.text text)) }

/-- The service with this name, made and registered if it is a new one. -/
def ensureService (c : Client γ τ) (name : String) :
    Except RelayError (Service ClientAction) × Client γ τ :=
  match c.services.find? name with
  | some s => (.ok s, c)
  | none =>
    match clientService name c.protocol with
    | .error e => (.error e, c)
    | .ok s =>
      match s.registerInto c.connection.handler with
      | (.error e, d) => (.error e, { c with connection := { c.connection with handler := d } })
      | (.ok _, d) =>
        (.ok s, { c with
          connection := { c.connection with handler := d }
          services := c.services.insert name s })

/-- Sends a packet, and tells the user if it was not accepted. -/
def sendOrReport [Transport τ] (c : Client γ τ) (p : Packet Json) (action name : String) :
    Client γ τ :=
  let (accepted, connection) := c.connection.send (.packet p)
  let c := { c with connection := connection }
  if accepted then c
  else c.print ("* " ++ action ++ " " ++ name ++ " not sent, connection is not open")

/-- Carries out a command.  The result says whether the session goes on. -/
def execute [Transport τ] [Connector γ τ] (c : Client γ τ) : Command → Bool × Client γ τ
  | .subscribe name =>
    match c.ensureService name with
    | (.error e, c) => (true, c.print ("* " ++ e.message))
    | (.ok s, c) => (true, c.sendOrReport s.subscribePacket "subscribe" name)
  | .unsubscribe name =>
    match c.services.find? name with
    | some s => (true, c.sendOrReport s.unsubscribePacket "unsubscribe" name)
    | none => (true, c.print ("* not subscribed to " ++ name))
  | .send name data =>
    match c.protocol.packet name data with
    | .error e => (true, c.print ("* " ++ e.message))
    | .ok p => (true, c.sendOrReport p "send" name)
  | .connect =>
    match c.connection.connect with
    | (.error e, connection) =>
      (true, { c with connection := connection }.print ("* " ++ e.message))
    | (.ok _, connection) => (true, { c with connection := connection })
  | .disconnect => (true, { c with connection := c.connection.disconnect })
  | .state => (true, c.print ("* " ++ c.connection.state.shown))
  | .help => (true, c.print Command.helpText)
  | .quit => (false, c)

/-- What a line of the user does; a line that is no command is reported to
the user.  The result says whether the session goes on. -/
def enter [Transport τ] [Connector γ τ] (c : Client γ τ) (line : String) : Bool × Client γ τ :=
  match Command.parse line with
  | .error e => (true, c.print ("* " ++ e.message))
  | .ok none => (true, c)
  | .ok (some command) => c.execute command

/-- Takes a message that came in over the connection. -/
def receive [Transport τ] (c : Client γ τ) (text : String) :
    Except RelayError Unit × Client γ τ :=
  let (result, connection) := c.connection.handleMessage text
  (result, { c with connection := connection })

end Client

end PushRelay
