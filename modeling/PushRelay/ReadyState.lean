/-!
# PushRelay.ReadyState

The life of a transport: it is connecting, then open, then closing, then
closed, and may skip stages but never go back.  A connection that was never
opened counts as closed.
-/

namespace PushRelay

/-- How far a transport is in its life. -/
inductive ReadyState where
  | connecting
  | opened
  | closing
  | closed
deriving DecidableEq, Repr

namespace ReadyState

instance : Inhabited ReadyState := ⟨.closed⟩

/-- The number of a state; a later state has a larger one. -/
def code : ReadyState → Nat
  | .connecting => 0
  | .opened => 1
  | .closing => 2
  | .closed => 3

/-- The state with a number. -/
def ofCode? : Nat → Option ReadyState
  | 0 => some .connecting
  | 1 => some .opened
  | 2 => some .closing
  | 3 => some .closed
  | _ => none

@[simp] theorem ofCode?_code (s : ReadyState) : ofCode? s.code = some s := by
  cases s <;> rfl

/-- The state as it is shown to a user. -/
def shown : ReadyState → String
  | .connecting => "CONNECTING"
  | .opened => "OPEN"
  | .closing => "CLOSING"
  | .closed => "CLOSED"

/-- The state as it is shown in a report. -/
def reported : ReadyState → String
  | .connecting => "Connecting"
  | .opened => "Open"
  | .closing => "Closing"
  | .closed => "Closed"

end ReadyState

end PushRelay
