import PushRelay.Packet.Frame
import PushRelay.Router.Outgoing
import PushRelay.Table

/-!
# PushRelay.Router.PushService

A service of a router pushes each of its packets to all its subscribers.

1. A service remembers its last `historyLength` frames, and a new
   subscriber first gets those that are remembered.
2. A subscriber is a connection together with its queue.  A connection
   subscribes once: subscribing again changes nothing and replays nothing.
3. A subscriber whose queue has been hung up is dropped by the next push,
   and a connection whose queue does not take the replay is not subscribed.
4. A packet that is too large for a frame is not pushed and not
   remembered.
5. There is no service with a history for which there can be no room.

The room for a history is set aside at once, for as many frames as the
service is to remember.  A frame takes 24 bytes of it, and the whole must
end before byte `2 ^ 63` at a multiple of eight.  A router that runs out of
room stops.  This is no refusal: a refusal is an answer, and the router goes
on after it.
-/

namespace PushRelay

/-! ## Room -/

/-- Why a router stops for want of room. -/
inductive CapacityError where
  /-- a service is to remember more frames than there can be room for -/
  | historyTooLong (length : Nat)
  /-- the counter of the connections has no next number -/
  | counterFull
deriving DecidableEq, Repr

/-- The bytes that a frame takes of the room for a history. -/
abbrev frameRoom : Nat := 24

/-- The bytes that there can be for one history, `2 ^ 63 - 8`. -/
abbrev historyRoom : Nat := 9223372036854775800

/-- The longest history for which there can be room. -/
abbrev maxHistoryLength : Nat := historyRoom / frameRoom

/-- The number of values of the word in which connections are counted,
`2 ^ 64`. -/
abbrev counterSize : Nat := 18446744073709551616

/-! ## Services -/

/-- A service with its history and its subscribers. -/
structure PushService where
  name : String
  /-- how many frames are remembered -/
  historyLength : Nat := 0
  /-- the frames that are remembered, oldest first -/
  history : List String := []
  /-- the numbers of the queues of the subscribers, by connection -/
  subscribers : Table Nat Nat := ∅
  /-- there can be room for the history -/
  historyLength_le : historyLength ≤ maxHistoryLength := by decide

namespace PushService

/-- A new service of this name that remembers so many frames. -/
def ofName (name : String) (historyLength : Nat) : Except CapacityError PushService :=
  if h : historyLength ≤ maxHistoryLength then
    .ok { name := name, historyLength := historyLength, historyLength_le := h }
  else .error (.historyTooLong historyLength)

def isSubscribed (s : PushService) (id : Nat) : Bool := s.subscribers.contains id

/-- Subscribes a connection with the queue `q`, and replays the history to
it. -/
def subscribe (s : PushService) (id q : Nat) (qs : Queues) : Bool × PushService × Queues :=
  if s.isSubscribed id then (false, s, qs)
  else if s.history ≠ [] ∧ qs.accepts q = false then (false, s, qs)
  else (true, { s with subscribers := s.subscribers.insert id q }, qs.putAll q s.history)

/-- Ends the subscription of a connection, and tells whether there was
one. -/
def unsubscribe (s : PushService) (id : Nat) : Bool × PushService :=
  (s.isSubscribed id, { s with subscribers := s.subscribers.erase id })

/-- Appends a frame to the history, and forgets the oldest one if there are
too many. -/
def remember (s : PushService) (frame : String) : PushService :=
  if s.historyLength = 0 then s
  else if s.history.length = s.historyLength then
    { s with history := s.history.drop 1 ++ [frame] }
  else { s with history := s.history ++ [frame] }

/-- Pushes a frame: puts it on the queue of every subscriber, and drops
those whose queue does not take it. -/
def pushFrame (s : PushService) (frame : String) (qs : Queues) : PushService × Queues :=
  let s := s.remember frame
  ({ s with subscribers := s.subscribers.filter fun _ q => qs.accepts q },
    s.subscribers.values.foldl (fun qs q => qs.put q frame) qs)

/-- Pushes a packet, and returns the number of subscribers that are
left. -/
def push (s : PushService) (p : Packet Json) (qs : Queues) :
    Except RelayError Nat × PushService × Queues :=
  match p.encode with
  | .error e => (.error e, s, qs)
  | .ok frame =>
    let (s, qs) := s.pushFrame frame qs
    (.ok s.subscribers.size, s, qs)

/-- The text of a service in a report. -/
def report (s : PushService) : String :=
  "PushService \x7b name: " ++ Text.quoted s.name ++ ", history_len: " ++ toString s.historyLength
    ++ ", subscribers: " ++ toString s.subscribers.size ++ " \x7d"

end PushService

end PushRelay
