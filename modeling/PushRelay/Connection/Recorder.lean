import PushRelay.Connection.Reaction
import PushRelay.Dispatcher

/-!
# PushRelay.Connection.Recorder

A listener and a message handler that record what reaches them.

The listener sends the payloads that it was given as soon as its transport
is open, notes the error of one that could not be made, and fails where it
was told to.  The handler's callbacks leave a
mark, or answer a packet with another one that has the same data.
-/

namespace PushRelay

/-! ## Listener -/

/-- The kinds of news. -/
inductive News.Kind where
  | state
  | opened
  | closed
  | failed
deriving DecidableEq

def News.kind : News → News.Kind
  | .state _ => .state
  | .opened => .opened
  | .closed .. => .closed
  | .failed _ => .failed

/-- What a recorder writes down. -/
inductive Record where
  | news (n : News)
  /-- a payload was to be sent in this state: it was accepted or not, or
  there was none because of an error -/
  | outbox (state : ReadyState) (result : Except RelayError Bool)

/-- A listener that writes down what it is told. -/
structure Recorder where
  /-- at which news to fail: the kind, and which one of the kind counted
  from 1, or 0 for all of them -/
  failures : List (News.Kind × Nat) := []
  /-- what to send on an open transport, with an error in the place of a
  payload that could not be made -/
  onOpen : List (Except RelayError Outbound) := []
  /-- the kinds of all news so far -/
  heard : List News.Kind := []
  log : List Record := []

namespace Recorder

/-- Writes down the news, and copes with it unless told to fail. -/
def record (r : Recorder) (news : News) : Bool × Recorder :=
  let heard := news.kind :: r.heard
  let count := heard.count news.kind
  let fails := r.failures.any fun f => f.1 = news.kind && (f.2 = 0 || f.2 = count)
  (!fails, { r with heard, log := r.log ++ [.news news] })

/-- Sends payloads, and writes down what became of each. -/
def sendAll (r : Recorder) : List (Except RelayError Outbound) → Reaction Recorder
  | [] => .done r
  | .error e :: payloads =>
    .state fun s => sendAll { r with log := r.log ++ [Record.outbox s (.error e)] } payloads
  | .ok payload :: payloads =>
    .state fun s => .send payload fun accepted =>
      sendAll { r with log := r.log ++ [Record.outbox s (.ok accepted)] } payloads

end Recorder

instance : Listener Recorder where
  notify news r :=
    match news with
    | .opened => (r.sendAll r.onOpen).map fun r => r.record .opened
    | news => .done (r.record news)

/-! ## Message handler -/

/-- A callback that leaves a mark, or answers with a packet. -/
inductive RecordedAction where
  | record (mark : String)
  | reply (factory : Packet.Factory)
deriving DecidableEq

/-- A call of such a callback. -/
inductive RecordedCall where
  | recorded (mark name : String) (data : Json)
  /-- the answer was accepted or not -/
  | replied (name : String) (accepted : Bool)
deriving DecidableEq

/-- A message handler that writes down the calls of its callbacks. -/
structure RecordingHandler where
  dispatcher : Dispatcher RecordedAction
  calls : List RecordedCall := []

instance : MessageHandler RecordingHandler where
  handle message h :=
    match h.dispatcher.resolve message with
    | .error e => .done (.error e, h)
    | .ok call =>
      match call.callback with
      | .noop => .done (.ok (), h)
      | .run (.record mark) =>
        .done (.ok (), { h with calls := h.calls ++ [.recorded mark call.name call.data] })
      | .run (.reply factory) =>
        .send (.packet (factory.create call.data)) fun accepted =>
          .done (.ok (), { h with calls := h.calls ++ [.replied call.name accepted] })

end PushRelay
