import PushRelay.Transport.Basic

/-!
# PushRelay.Transport.Scripted

Transports that are moved from outside, to take a connection through any
history: their state is set at will, their sends can be made to fail, and
so can the next attempt to make one.
-/

namespace PushRelay

/-- A transport that is moved from outside. -/
structure ScriptedTransport where
  url : String
  state : ReadyState
  /-- where `close` takes a transport that is connecting or open -/
  closesTo : ReadyState
  /-- whether frames are refused -/
  refusing : Bool := false
deriving DecidableEq

instance : Transport ScriptedTransport where
  state := ScriptedTransport.state
  send _ t := if t.refusing then (.error .connectionClosed, t) else (.ok (), t)
  close t :=
    if t.state = .connecting ∨ t.state = .opened then { t with state := t.closesTo } else t

/-- What makes transports that are moved from outside. -/
structure ScriptedConnector where
  /-- the state of a new transport -/
  firstState : ReadyState := .connecting
  closesTo : ReadyState := .closing
  /-- whether the next attempt fails -/
  failing : Bool := false
deriving DecidableEq

instance : Connector ScriptedConnector ScriptedTransport where
  connect url c :=
    if c.failing then (.error .connectionTimeout, { c with failing := false })
    else (.ok ⟨url, c.firstState, c.closesTo, false⟩, c)

end PushRelay
