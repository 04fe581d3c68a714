import PushRelay.Service

/-!
# PushRelay.Registry.Basic

Protocols that are shared, and the handlers over them.

Several handlers may stand over one protocol, and a callback that runs may
register callbacks with any handler and add names to any protocol, its own
among them.  So protocols and handlers are kept in one store and go by
their numbers:

1. two handles are of the same protocol if they have the same number;
2. a handler has callbacks of its own, and the number of its protocol;
3. each operation takes a handler out as a `Dispatcher`, works on it, and
   puts its protocol and its callbacks back, whether it failed or not;
4. a callback is looked up before it runs, so what it registers takes
   effect from the next message on.

The journal tells in order which callbacks ran and what they asked for.
-/

namespace PushRelay

variable {κ : Type}

/-- A handler: the number of its protocol, and its callbacks. -/
structure Handler (κ : Type) where
  protocol : Nat
  callbacks : Table String (Callback κ)

/-- What a callback may ask for while it runs. -/
inductive Request (κ : Type) where
  | register (handler : Nat) (name : String) (callback : Callback κ)
  | add (protocol : Nat) (name : String)

/-- What happened in the course of a message, with the error of what was
asked for and refused. -/
inductive Notice (κ : Type) where
  | called (call : Call κ)
  | registered (handler : Nat) (name : String) (error : Option RelayError)
  | added (protocol : Nat) (name : String) (error : Option RelayError)

/-- A store of protocols and handlers, each known by its number.  A handler
that nobody holds any more has been released. -/
structure Registry (κ : Type) where
  protocols : List Protocol := []
  handlers : List (Option (Handler κ)) := []
  journal : List (Notice κ) := []

/-- What running a callback means.  It may depend on all that has happened
so far. -/
class Behaviour (κ : Type) where
  requests : κ → Json → String → Registry κ → List (Request κ)

namespace Registry

/-! ## Protocols -/

/-- Enters a protocol, and returns its number. -/
def newProtocol (r : Registry κ) (p : Protocol) : Nat × Registry κ :=
  (r.protocols.length, { r with protocols := r.protocols ++ [p] })

/-- The protocol with a number; one that is not there has no packets. -/
def protocol (r : Registry κ) (p : Nat) : Protocol := r.protocols[p]?.getD ∅

/-- Adds a name to a protocol. -/
def add (r : Registry κ) (p : Nat) (name : String) :
    Except RelayError Packet.Factory × Registry κ :=
  match (r.protocol p).add name with
  | .error e => (.error e, r)
  | .ok (factory, q) => (.ok factory, { r with protocols := r.protocols.set p q })

/-! ## Handlers -/

/-- Takes out the dispatcher of a handler, unless it is released. -/
def dispatcher? (r : Registry κ) (h : Nat) : Option (Dispatcher κ) :=
  match r.handlers[h]? with
  | some (some handler) => some ⟨r.protocol handler.protocol, handler.callbacks⟩
  | _ => none

/-- Puts back the dispatcher of a handler over protocol `p`. -/
def putBack (r : Registry κ) (h p : Nat) (d : Dispatcher κ) : Registry κ :=
  { r with
    protocols := r.protocols.set p d.protocol
    handlers := r.handlers.set h (some ⟨p, d.callbacks⟩) }

/-- Works on the dispatcher of a handler; with a released handler nothing
is done. -/
def onHandler (r : Registry κ) (h : Nat)
    (work : Dispatcher κ → Except RelayError Unit × Dispatcher κ) :
    Except RelayError Unit × Registry κ :=
  match r.handlers[h]? with
  | some (some handler) =>
    let (result, d) := work ⟨r.protocol handler.protocol, handler.callbacks⟩
    (result, r.putBack h handler.protocol d)
  | _ => (.ok (), r)

/-- Keeps a dispatcher as it was where the work on it failed. -/
def orKeep (work : Dispatcher κ → Except RelayError (Dispatcher κ)) (d : Dispatcher κ) :
    Except RelayError Unit × Dispatcher κ :=
  match work d with
  | .error e => (.error e, d)
  | .ok d => (.ok (), d)

/-- Enters a handler over a protocol, and returns its number. -/
def newHandler (r : Registry κ) (p : Nat) : Nat × Registry κ :=
  (r.handlers.length,
    { r with
      handlers := r.handlers ++ [some ⟨p, (Dispatcher.ofProtocol (r.protocol p)).callbacks⟩] })

/-- Enters a handler over a protocol with callbacks of its own.  If one is
refused there is no handler, but the names before it stay in the
protocol. -/
def withHandlers (r : Registry κ) (p : Nat) (entries : List (String × Option (Callback κ))) :
    Except RelayError Nat × Registry κ :=
  let (result, d) := (Dispatcher.ofProtocol (r.protocol p)).registerAll entries
  let r := { r with protocols := r.protocols.set p d.protocol }
  match result with
  | .error e => (.error e, r)
  | .ok _ => (.ok r.handlers.length, { r with handlers := r.handlers ++ [some ⟨p, d.callbacks⟩] })

def register (r : Registry κ) (h : Nat) (name : String) (callback : Callback κ) :
    Except RelayError Unit × Registry κ :=
  r.onHandler h (orKeep fun d => d.register name callback)

def registerEntry (r : Registry κ) (h : Nat) (name : String) (entry : Option (Callback κ)) :
    Except RelayError Unit × Registry κ :=
  r.onHandler h (orKeep fun d => d.registerEntry name entry)

def registerAll (r : Registry κ) (h : Nat) (entries : List (String × Option (Callback κ))) :
    Except RelayError Unit × Registry κ :=
  r.onHandler h fun d => d.registerAll entries

/-- Registers the callbacks of a service with a handler. -/
def registerService (r : Registry κ) (h : Nat) (s : Service κ) :
    Except RelayError Unit × Registry κ :=
  r.onHandler h s.registerInto

/-- Forgets a handler; callbacks that still name it find nothing. -/
def release (r : Registry κ) (h : Nat) : Registry κ :=
  { r with handlers := r.handlers.set h none }

/-! ## Messages -/

def note (r : Registry κ) (n : Notice κ) : Registry κ := { r with journal := r.journal ++ [n] }

/-- The error of a result, if it is one. -/
def errorOf {α : Type} : Except RelayError α → Option RelayError
  | .error e => some e
  | .ok _ => none

/-- Does what a callback asks for.  Nothing can be registered with a
released handler. -/
def perform (r : Registry κ) : Request κ → Registry κ
  | .register h name callback =>
    if (r.dispatcher? h).isSome then
      let (result, r) := r.register h name callback
      r.note (.registered h name (errorOf result))
    else r
  | .add p name =>
    let (result, r) := r.add p name
    r.note (.added p name (errorOf result))

/-- Runs the callback of a call. -/
def run [Behaviour κ] (r : Registry κ) (call : Call κ) : Registry κ :=
  let r := r.note (.called call)
  match call.callback with
  | .noop => r
  | .run action => (Behaviour.requests action call.data call.name r).foldl perform r

/-- Resolves a message with a handler, and runs the callback that is
found. -/
def dispatch [Behaviour κ] (r : Registry κ) (h : Nat)
    (resolve : Dispatcher κ → Except RelayError (Call κ)) :
    Except RelayError Unit × Registry κ :=
  match r.dispatcher? h with
  | none => (.ok (), r)
  | some d =>
    match resolve d with
    | .error e => (.error e, r)
    | .ok call => (.ok (), r.run call)

/-- Handles a message. -/
def handle [Behaviour κ] (r : Registry κ) (h : Nat) (message : Json) :
    Except RelayError Unit × Registry κ :=
  r.dispatch h fun d => d.resolve message

/-- Handles a packet. -/
def handlePacket [Behaviour κ] (r : Registry κ) (h : Nat) (p : Packet Json) :
    Except RelayError Unit × Registry κ :=
  r.dispatch h fun d => d.resolvePacket p

end Registry

end PushRelay
