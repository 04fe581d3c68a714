import PushRelay.Error
import PushRelay.ReadyState

/-!
# PushRelay.Transport.Basic

What a connection needs of the medium below it.

A transport carries text frames between two peers for one life: it is made
by a connector for an address, opens, and closes for good.  A transport
reports what happens to it by events, which name it by its number.
-/

namespace PushRelay

/-- A medium for text frames. -/
class Transport (τ : Type) where
  /-- how far the transport is in its life -/
  state : τ → ReadyState
  /-- hands a frame over; an error means that it was not accepted -/
  send : (frame : String) → τ → Except RelayError Unit × τ
  /-- asks the transport to close; asking again does no harm -/
  close : τ → τ

/-- What makes transports of one kind. -/
class Connector (γ : Type) (τ : outParam Type) where
  /-- a new transport for an address -/
  connect : (url : String) → γ → Except RelayError τ × γ

/-- What a transport reports of itself. -/
inductive EventKind where
  | opened
  | message (text : String)
  | closed (code : Option Nat) (reason : String)
  | failed (message : String)
deriving DecidableEq

/-- A report of the transport with the given number. -/
structure Event where
  transport : Nat
  kind : EventKind
deriving DecidableEq

/-- The text of an optional number in a report. -/
def reportOption : Option Nat → String
  | none => "None"
  | some n => "Some(" ++ toString n ++ ")"

/-- The text of an event in a report. -/
def EventKind.report : EventKind → String
  | .opened => "Open"
  | .message text => "Message(" ++ Text.quoted text ++ ")"
  | .closed code reason =>
    "Close \x7b code: " ++ reportOption code ++ ", reason: " ++ Text.quoted reason ++ " \x7d"
  | .failed text => "Error(" ++ Text.quoted text ++ ")"

end PushRelay
