import PushRelay.Connection.Reaction
import PushRelay.Transport.Basic

/-!
# PushRelay.Connection.Basic

A connection to an address, over one transport after another.

1. A new transport is made only when the current one is closed or there is
   none yet.
2. Events may arrive late, from a transport that has been superseded.  The
   state of a transport is told to the listener only while it is the
   current one; a late `opened` closes its transport.  A `closed` is told
   in any case, unless the listener fails at the state before it.
3. A transport is asked to close when its connection is closed or dropped,
   when it fails, and when the listener fails at its first state or at its
   opening.  A listener that fails does no other harm.
4. Messages are handled whatever transport they come from.
5. A payload is sent only on a transport that is open; nothing is queued.

The connection holds the number of its transport twice: `own` for itself,
and `shared` for the senders that were handed out and outlive it.  The
journal tells in order what was done: notifications, frames, closings and
lines.  With each notification it keeps how the connection stood at that
moment.
-/

namespace PushRelay

/-- How a connection stands at a moment. -/
structure Standing where
  /-- the current transport -/
  current : Option Nat
  /-- the states of all transports -/
  states : List ReadyState
deriving DecidableEq

/-- An entry of the journal of a connection. -/
inductive Entry where
  /-- a transport was made -/
  | created (transport : Nat)
  /-- the listener is told something of a transport, while the connection
  stands as it does -/
  | told (transport : Nat) (news : News) (standing : Standing)
  /-- the listener failed at what it was told last -/
  | unheard (transport : Nat) (news : News)
  /-- a frame was handed to a transport, which accepted it or did not -/
  | sent (transport : Nat) (frame : String) (accepted : Bool)
  /-- a transport was asked to close -/
  | closed (transport : Nat)
  /-- a line was written for the user -/
  | printed (line : Line)
deriving DecidableEq

/-- A connection with all transports that it ever had. -/
structure Connection (γ τ η ℓ : Type) where
  url : String
  connector : γ
  handler : η
  listener : ℓ
  /-- the transports, in the order in which they were made -/
  transports : List τ := []
  /-- the current transport, as the connection itself knows it -/
  own : Option Nat := none
  /-- the current transport, as the senders know it -/
  shared : Option Nat := none
  /-- events that wait to be handled, oldest first -/
  queue : List Event := []
  journal : List Entry := []
  dropped : Bool := false

namespace Connection

variable {γ τ η ℓ : Type}

/-- The connection to an address, not yet connected. -/
def ofUrl (url : String) (connector : γ) (handler : η) (listener : ℓ) :
    Except RelayError (Connection γ τ η ℓ) :=
  if url = "" then .error .noUrl
  else .ok { url := url, connector := connector, handler := handler, listener := listener }

/-- Makes an entry in the journal. -/
def note (c : Connection γ τ η ℓ) (e : Entry) : Connection γ τ η ℓ :=
  { c with journal := c.journal ++ [e] }

def setListener (c : Connection γ τ η ℓ) (listener : ℓ) : Connection γ τ η ℓ :=
  { c with listener := listener }

/-- Moves the transport with a number. -/
def move (c : Connection γ τ η ℓ) (t : Nat) (f : τ → τ) : Connection γ τ η ℓ :=
  { c with transports := c.transports.modify t f }

section

variable [Transport τ]

/-! ## State -/

/-- The state of a transport; where there is none it is closed. -/
def stateOn (c : Connection γ τ η ℓ) (on : Option Nat) : ReadyState :=
  match on.bind (c.transports[·]?) with
  | some t => Transport.state t
  | none => .closed

/-- The state of the connection. -/
def state (c : Connection γ τ η ℓ) : ReadyState := c.stateOn c.own

/-- The state of the connection as its senders see it. -/
def senderState (c : Connection γ τ η ℓ) : ReadyState := c.stateOn c.shared

/-- How the connection stands. -/
def standing (c : Connection γ τ η ℓ) : Standing := ⟨c.own, c.transports.map Transport.state⟩

/-! ## Sending -/

/-- Sends a payload on a transport, and tells whether it was accepted. -/
def sendOn (c : Connection γ τ η ℓ) (on : Option Nat) (payload : Outbound) :
    Bool × Connection γ τ η ℓ :=
  match on with
  | none => (false, c)
  | some i =>
    match c.transports[i]? with
    | none => (false, c)
    | some t =>
      if Transport.state t ≠ .opened then (false, c)
      else match payload.frame with
        | .error _ => (false, c)
        | .ok frame =>
          let (result, t) := Transport.send frame t
          let accepted := result.isOk
          (accepted, { c with transports := c.transports.set i t }.note (.sent i frame accepted))

/-- Sends a payload on the current transport. -/
def send (c : Connection γ τ η ℓ) (payload : Outbound) : Bool × Connection γ τ η ℓ :=
  c.sendOn c.own payload

/-- Sends a payload through a sender that was handed out. -/
def senderSend (c : Connection γ τ η ℓ) (payload : Outbound) : Bool × Connection γ τ η ℓ :=
  c.sendOn c.shared payload

/-! ## Closing -/

/-- Asks a transport to close. -/
def closeTransport (c : Connection γ τ η ℓ) (t : Nat) : Connection γ τ η ℓ :=
  (c.move t Transport.close).note (.closed t)

/-- Closes the current transport, if there is one. -/
def disconnect (c : Connection γ τ η ℓ) : Connection γ τ η ℓ :=
  match c.own with
  | some t => c.closeTransport t
  | none => c

/-- Gives the connection up, once and for all; only its senders remain. -/
def drop (c : Connection γ τ η ℓ) : Connection γ τ η ℓ :=
  if c.dropped then c else { c.disconnect with dropped := true }

/-! ## Telling -/

/-- Carries out a reaction, whose sends go to the transport `on`. -/
def carryOut {α : Type} (c : Connection γ τ η ℓ) (on : Option Nat) :
    Reaction α → α × Connection γ τ η ℓ
  | .done a => (a, c)
  | .print line next => (c.note (.printed line)).carryOut on next
  | .state next => c.carryOut on (next (c.stateOn on))
  | .send payload next =>
    let (accepted, c) := c.sendOn on payload
    c.carryOut on (next accepted)

/-- Tells the listener something of transport `t`; its sends go to `on`.
The result says whether it coped. -/
def tell [Listener ℓ] (c : Connection γ τ η ℓ) (t : Nat) (on : Option Nat) (news : News) :
    Bool × Connection γ τ η ℓ :=
  let c := c.note (.told t news c.standing)
  let ((ok, listener), c) := c.carryOut on (Listener.notify news c.listener)
  let c := c.setListener listener
  (ok, if ok then c else c.note (.unheard t news))

/-- Tells the listener the state of transport `t`, if it is the current
one. -/
def tellState [Listener ℓ] (c : Connection γ τ η ℓ) (t : Nat) : Bool × Connection γ τ η ℓ :=
  if c.own = some t then c.tell t c.shared (.state (c.stateOn (some t))) else (true, c)

/-! ## Connecting -/

/-- Makes a new transport if the connection is closed.  That fails only if
the connector does. -/
def connect [Connector γ τ] [Listener ℓ] (c : Connection γ τ η ℓ) :
    Except RelayError Unit × Connection γ τ η ℓ :=
  if c.state ≠ .closed then (.ok (), c)
  else match Connector.connect c.url c.connector with
    | (.error e, connector) => (.error e, { c with connector := connector })
    | (.ok t, connector) =>
      let i := c.transports.length
      let c := { c with
        connector := connector
        transports := c.transports ++ [t]
        own := some i
        shared := some i }.note (.created i)
      let (ok, c) := c.tellState i
      (.ok (), if ok then c else c.closeTransport i)

/-! ## Events -/

/-- Reports an event to the connection, unless it was dropped. -/
def emit (c : Connection γ τ η ℓ) (e : Event) : Bool × Connection γ τ η ℓ :=
  if c.dropped then (false, c) else (true, { c with queue := c.queue ++ [e] })

/-- Takes the oldest event that waits. -/
def nextEvent? (c : Connection γ τ η ℓ) : Option (Event × Connection γ τ η ℓ) :=
  match c.queue with
  | [] => none
  | e :: queue => some (e, { c with queue := queue })

variable [Listener ℓ]

/-- Transport `t` has opened. -/
def handleOpened (c : Connection γ τ η ℓ) (t : Nat) : Connection γ τ η ℓ :=
  if c.own ≠ some t then c.closeTransport t
  else
    let (ok, c) := c.tellState t
    let (ok, c) := if ok then c.tell t (some t) .opened else (false, c)
    if ok then c else c.closeTransport t

/-- A message has come in. -/
def handleMessage [MessageHandler η] (c : Connection γ τ η ℓ) (text : String) :
    Except RelayError Unit × Connection γ τ η ℓ :=
  match Packet.decodeFrame text with
  | .error e => (.error e, c)
  | .ok message =>
    let ((result, handler), c) := c.carryOut c.shared (MessageHandler.handle message c.handler)
    (result, { c with handler := handler })

/-- Transport `t` has closed. -/
def handleClosed (c : Connection γ τ η ℓ) (t : Nat) (code : Option Nat) (reason : String) :
    Connection γ τ η ℓ :=
  let (ok, c) := c.tellState t
  if ok then (c.tell t c.shared (.closed code reason)).2 else c

/-- Transport `t` has failed. -/
def handleFailed (c : Connection γ τ η ℓ) (t : Nat) (message : String) : Connection γ τ η ℓ :=
  let (ok, c) := c.tellState t
  let c := if ok then (c.tell t c.shared (.failed message)).2 else c
  c.closeTransport t

/-- Handles an event.  Only the handling of a message can fail. -/
def handleEvent [MessageHandler η] (c : Connection γ τ η ℓ) (e : Event) :
    Except RelayError Unit × Connection γ τ η ℓ :=
  match e.kind with
  | .opened => (.ok (), c.handleOpened e.transport)
  | .message text => c.handleMessage text
  | .closed code reason => (.ok (), c.handleClosed e.transport code reason)
  | .failed message => (.ok (), c.handleFailed e.transport message)

/-- Handles the oldest event that waits. -/
def processNext? [MessageHandler η] (c : Connection γ τ η ℓ) :
    Option (Except RelayError Unit × Connection γ τ η ℓ) :=
  c.nextEvent?.map fun (e, c) => c.handleEvent e

end

/-- The text of a sender in a report. -/
def senderReport [Transport τ] (c : Connection γ τ η ℓ) : String :=
  "ConnectionSender \x7b state: " ++ c.senderState.reported ++ " \x7d"

end Connection

end PushRelay
