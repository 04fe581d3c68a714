import PushRelay.Transport.Basic
import PushRelay.Packet.Frame

/-!
# PushRelay.Transport.Socket

The transport over a web socket, up to the task that owns the socket.

The transport and its task share the state and a queue of commands.  The
connection sends and closes; the task opens the transport once its
handshake is done, and closes it at the end.  Whoever comes first decides
between opening and closing:

1. only a transport that is still connecting can be opened;
2. a frame is queued if the transport is open and the frame has at most
   `maxFrame` bytes;
3. the first call to `close` before the end queues the command to close,
   and every later one does nothing.
-/

namespace PushRelay

/-- How long a handshake may take, in seconds. -/
def connectTimeoutSeconds : Nat := 10

/-- How transports over sockets are made. -/
structure SocketConfig where
  /-- how long a handshake may take, in milliseconds; none is forever -/
  connectTimeout : Option Nat := some (connectTimeoutSeconds * 1000)
  /-- the most bytes that a frame may have -/
  maxFrame : Nat := maxFrameSize
deriving DecidableEq

/-- What the task of a socket is told to do. -/
inductive SocketCommand where
  | send (frame : String)
  | close
deriving DecidableEq

/-- A transport over a socket. -/
structure Socket where
  url : String
  state : ReadyState
  maxFrame : Nat
  /-- the commands for the task, oldest first -/
  commands : List SocketCommand
  /-- whether the task still takes commands -/
  attached : Bool := true
deriving DecidableEq

namespace Socket

/-- The transport of a new socket; its address must be one that a request
can be made of. -/
def connect (config : SocketConfig) (url : String) : Except RelayError Socket :=
  match Uri.authority url with
  | .error fault => .error (.address fault)
  | .ok _ => .ok ⟨url, .connecting, config.maxFrame, [], true⟩

/-- Opens the transport if it is still connecting, and tells whether it
was. -/
def tryOpen (s : Socket) : Bool × Socket :=
  if s.state = .connecting then (true, { s with state := .opened }) else (false, s)

/-- The state as the task sets it. -/
def setState (s : Socket) (state : ReadyState) : Socket := { s with state }

def send (frame : String) (s : Socket) : Except RelayError Unit × Socket :=
  if s.state ≠ .opened then (.error .connectionClosed, s)
  else if s.maxFrame < frame.utf8ByteSize then
    (.error (.frameTooLarge frame.utf8ByteSize s.maxFrame), s)
  else if s.attached then (.ok (), { s with commands := s.commands ++ [.send frame] })
  else (.error .connectionClosed, s)

def close (s : Socket) : Socket :=
  if s.state = .connecting ∨ s.state = .opened then
    { s with
      state := .closing
      commands := if s.attached then s.commands ++ [.close] else s.commands }
  else s

end Socket

instance : Transport Socket where
  state := Socket.state
  send := Socket.send
  close := Socket.close

instance : Connector SocketConfig Socket where
  connect url config := (Socket.connect config url, config)

end PushRelay
