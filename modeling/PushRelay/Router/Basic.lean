import PushRelay.Router.Peer

/-!
# PushRelay.Router.Basic

A router: services that push to whoever subscribes, a protocol for the
frames of its connections, and a limit on their number.

1. A router starts with two services of its own, which also name the
   packets that they push: the clock, and the number of connections, whose
   history is kept.
2. A connection is accepted while fewer than `maxConnections` are there.
   An accepted connection gets the next number and a queue of its own.
3. When a connection ends it is unsubscribed from all services.

The connections are counted in a word of 64 bits: one less than none is the
largest number.  That number has no next one, so with it in the counter no
connection is counted, and the router stops at the attempt.
-/

namespace PushRelay

/-- The service that tells the time. -/
def clockService : String := "clock"

/-- The service that tells how many connections there are. -/
def connectionsService : String := "connections"

/-- How many frames the service `connections` remembers. -/
def pushHistoryLength : Nat := 100

/-- How often the services of the router push, in seconds. -/
def pushIntervalSeconds : Nat := 1

/-- How many connections a router takes if nothing else is chosen. -/
def defaultMaxConnections : Nat := 100

/-- Where a router listens if nothing else is chosen. -/
def defaultListenAddress : String := "127.0.0.1:8080"

/-- What is chosen when a router is started. -/
structure RouterConfig where
  /-- the most connections at a time -/
  maxConnections : Nat := defaultMaxConnections
  /-- how often the services of the router push, in milliseconds -/
  pushInterval : Nat := pushIntervalSeconds * 1000
deriving DecidableEq

/-- A router. -/
structure Router where
  protocol : Protocol
  directory : Directory
  maxConnections : Nat
  /-- the number of connections, modulo 2^64 -/
  online : Nat := 0
  /-- the number of the next connection -/
  nextId : Nat := 1
  /-- the connections that have not ended, by number -/
  peers : Table Nat Peer := ∅

namespace Router

/-- The services of the router itself. -/
def ownServices : Directory :=
  ((({} : Directory).registerNew { name := clockService }).2.registerNew
    { name := connectionsService, historyLength := pushHistoryLength }).2

/-- A new router. -/
def start (config : RouterConfig) : Router where
  protocol := (Protocol.net.addIfAllowed clockService).addIfAllowed connectionsService
  directory := ownServices
  maxConnections := config.maxConnections

/-! ## Counting connections -/

/-- Counts a further connection unless there are too many, and tells
whether it was counted.  The next number is needed also where it is not
taken, so the counter must have one whatever the limit is. -/
def tryCount (r : Router) : Except CapacityError (Bool × Router) :=
  if counterSize ≤ r.online + 1 then .error .counterFull
  else if r.online < r.maxConnections then .ok (true, { r with online := r.online + 1 })
  else .ok (false, r)

/-- Counts one connection less. -/
def uncount (r : Router) : Router :=
  { r with online := (r.online + (counterSize - 1)) % counterSize }

/-! ## The life of a connection -/

/-- Accepts a connection if there are not too many, and returns its
number.  Without a next number for the counter there is no connection.  The
numbers of connections are kept in a word of 64 bits too; they are taken
not to run over, since `2 ^ 64` connections are never made. -/
def accept (r : Router) : Option Nat × Router :=
  match r.tryCount with
  | .error _ => (none, r)
  | .ok (false, r) => (none, r)
  | .ok (true, r) =>
    let (queue, directory) := r.directory.newQueue
    match Peer.ofProtocol r.protocol r.nextId queue with
    | .error _ => (none, { r with nextId := r.nextId + 1 }.uncount)
    | .ok peer =>
      (some r.nextId, { r with
        directory := directory
        nextId := r.nextId + 1
        peers := r.peers.insert r.nextId peer })

/-- Takes a frame of a connection; one that has ended sends none. -/
def receive (r : Router) (id : Nat) (text : String) : Router :=
  match r.peers.find? id with
  | none => r
  | some peer => { r with directory := r.directory.receive peer text }

/-- The reader of the frames for a connection hangs up. -/
def hangUp (r : Router) (id : Nat) : Router :=
  match r.peers.find? id with
  | none => r
  | some peer => { r with directory := r.directory.hangUp peer.queue }

/-- Ends a connection. -/
def finish (r : Router) (id : Nat) : Router :=
  match r.peers.find? id with
  | none => r
  | some peer =>
    { r with
      directory := (r.directory.unsubscribeAll id).hangUp peer.queue
      peers := r.peers.erase id }.uncount

/-! ## Services -/

/-- Pushes a packet by the service with number `n`. -/
def push (r : Router) (n : Nat) (p : Packet Json) : Except RelayError Nat × Router :=
  let (result, directory) := r.directory.push n p
  (result, { r with directory := directory })

end Router

end PushRelay
