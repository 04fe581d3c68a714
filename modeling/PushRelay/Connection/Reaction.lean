import PushRelay.Json.Printer
import PushRelay.Packet.Frame
import PushRelay.ReadyState

/-!
# PushRelay.Connection.Reaction

What is sent over a connection, and what those who are told of something do
about it.

A listener or the handler of a packet may send payloads, look at the state
of the transport it sends on, and write lines for the user, each step
depending on what came of those before.  A `Reaction` is such a course of
steps with a result at its end; the connection carries it out.
-/

namespace PushRelay

/-- A line for the user. -/
inductive Line where
  /-- a text as it is; it may hold line breaks of its own -/
  | text (s : String)
  /-- a packet that came in -/
  | packet (name : String) (data : Json)
deriving DecidableEq

/-- The text of a line, where `clock` is the time of day. -/
def Line.render (clock : String) : Line → String
  | .text s => s
  | .packet name data => "[" ++ clock ++ "] " ++ name ++ " " ++ data.render

/-- What is sent: a packet, or a text that is a frame as it is. -/
inductive Outbound where
  | packet (p : Packet Json)
  | text (s : String)
deriving DecidableEq

/-- The frame of a payload. -/
def Outbound.frame : Outbound → Except RelayError String
  | .packet p => p.encode
  | .text s => .ok s

/-- A course of steps that ends in a result. -/
inductive Reaction (α : Type) where
  | done (result : α)
  /-- writes a line for the user -/
  | print (line : Line) (next : Reaction α)
  /-- asks for the state of the transport -/
  | state (next : ReadyState → Reaction α)
  /-- sends a payload and learns whether it was accepted -/
  | send (payload : Outbound) (next : Bool → Reaction α)

namespace Reaction

/-- Goes on with a second course. -/
def bind {α β : Type} : Reaction α → (α → Reaction β) → Reaction β
  | .done a, f => f a
  | .print line next, f => .print line (next.bind f)
  | .state next, f => .state fun s => (next s).bind f
  | .send payload next, f => .send payload fun b => (next b).bind f

def map {α β : Type} (f : α → β) (r : Reaction α) : Reaction β := r.bind fun a => .done (f a)

end Reaction

/-- What a listener is told. -/
inductive News where
  /-- the state of the current transport -/
  | state (s : ReadyState)
  /-- the current transport is open -/
  | opened
  /-- a transport was closed -/
  | closed (code : Option Nat) (reason : String)
  /-- a transport failed -/
  | failed (message : String)
deriving DecidableEq

/-- Who is told of the life of a connection.  The result says whether the
listener coped with the news. -/
class Listener (ℓ : Type) where
  notify : News → ℓ → Reaction (Bool × ℓ)

/-- A listener that does not care. -/
instance : Listener Unit where
  notify _ _ := .done (true, ())

/-- A listener of one of two kinds. -/
instance {ℓ ℓ' : Type} [Listener ℓ] [Listener ℓ'] : Listener (ℓ ⊕ ℓ') where
  notify news
    | .inl l => (Listener.notify news l).map fun (ok, l) => (ok, .inl l)
    | .inr l => (Listener.notify news l).map fun (ok, l) => (ok, .inr l)

/-- Who handles the messages of a connection. -/
class MessageHandler (η : Type) where
  handle : Json → η → Reaction (Except RelayError Unit × η)

end PushRelay
