import PushRelay.Protocol

/-!
# PushRelay.Dispatcher

A dispatcher finds the callback for an incoming message by the name of its
packet.

1. A dispatcher starts with a callback that does nothing for every packet
   that its protocol has at that time.
2. Registering a callback adds its name to the protocol first, if it is
   not there; a name that the protocol refuses is not registered.
3. Registering a name again replaces its callback.
4. A list of callbacks is registered in order up to the first name that is
   refused; those before it stay, and entries without a callback are
   passed over.

A dispatcher does not run callbacks: `resolve` says which one is to run and
on what, and whoever owns the dispatcher knows what running it means.
-/

namespace PushRelay

variable {κ : Type}

/-- What is registered for a packet: nothing to do, or something to run. -/
inductive Callback (κ : Type) where
  | noop
  | run (action : κ)
deriving DecidableEq

/-- A callback that is to run, and what it runs on. -/
structure Call (κ : Type) where
  callback : Callback κ
  data : Json
  name : String
deriving DecidableEq

/-- The callbacks for the packets of a protocol. -/
structure Dispatcher (κ : Type) where
  protocol : Protocol
  callbacks : Table String (Callback κ)

namespace Dispatcher

instance [DecidableEq κ] : DecidableEq (Dispatcher κ) := fun c d =>
  if h : c.protocol = d.protocol ∧ c.callbacks = d.callbacks then
    .isTrue (by cases c; cases d; simp_all)
  else .isFalse (by rintro rfl; exact h ⟨rfl, rfl⟩)

/-- The dispatcher of a protocol, with nothing to do for any packet. -/
def ofProtocol (p : Protocol) : Dispatcher κ := ⟨p, p.packets.map fun _ => .noop⟩

/-! ## Registering -/

/-- Registers a callback for a packet. -/
def register (d : Dispatcher κ) (name : String) (callback : Callback κ) :
    Except RelayError (Dispatcher κ) :=
  if d.protocol.contains name then .ok { d with callbacks := d.callbacks.insert name callback }
  else match d.protocol.add name with
    | .error e => .error e
    | .ok (_, p) => .ok ⟨p, d.callbacks.insert name callback⟩

/-- Registers a callback that must be there. -/
def registerEntry (d : Dispatcher κ) (name : String) :
    Option (Callback κ) → Except RelayError (Dispatcher κ)
  | some callback => d.register name callback
  | none => .error (.notAFunction name)

/-- Registers callbacks up to the first name that is refused. -/
def registerAll (d : Dispatcher κ) :
    List (String × Option (Callback κ)) → Except RelayError Unit × Dispatcher κ
  | [] => (.ok (), d)
  | (_, none) :: entries => d.registerAll entries
  | (name, some callback) :: entries =>
    match d.register name callback with
    | .error e => (.error e, d)
    | .ok d => d.registerAll entries

/-! ## Dispatching -/

/-- The call for a packet with this name and data. -/
def callFor (d : Dispatcher κ) (name : String) (data : Json) : Except RelayError (Call κ) :=
  match d.callbacks.find? name with
  | some callback => .ok ⟨callback, data, name⟩
  | none => .error (.handlerNotFound name)

/-- The call for a packet. -/
def resolvePacket (d : Dispatcher κ) (p : Packet Json) : Except RelayError (Call κ) :=
  d.callFor p.name p.data

/-- The call for a message: an object whose name is a string.  Missing data
is null. -/
def resolve (d : Dispatcher κ) (message : Json) : Except RelayError (Call κ) :=
  match message.member? "name" with
  | some (.string name) => d.callFor name ((message.member? "data").getD .null)
  | _ => .error .malformedPacket

/-- The text of a dispatcher in a report. -/
def report (d : Dispatcher κ) : String :=
  "ProtocolHandler \x7b protocol: " ++ d.protocol.report ++ ", handlers: "
    ++ Text.quotedList d.callbacks.keys ++ " \x7d"

/-! ## Laws -/

variable {d d' : Dispatcher κ} {name : String} {callback : Callback κ} {e : RelayError}

/-- A callback is refused if its name can neither be found nor be added. -/
theorem register_eq_error_iff :
    d.register name callback = .error e ↔
      d.protocol.contains name = false ∧ ¬ Protocol.Allowed name ∧ e = .invalidPacketName name := by
  unfold register
  cases hc : d.protocol.contains name with
  | true => simp
  | false =>
    cases ha : d.protocol.add name with
    | error e' =>
      obtain ⟨hn, rfl⟩ := Protocol.add_eq_error_iff.1 ha
      simp [hn, eq_comm]
    | ok r =>
      have : ¬ ∃ e, d.protocol.add name = .error e := by simp [ha]
      simp only [Bool.false_eq_true, if_false, reduceCtorEq, true_and, false_iff]
      rintro ⟨hn, -⟩
      exact this ⟨_, Protocol.add_eq_error_iff.2 ⟨hn, rfl⟩⟩

/-- A callback that is registered takes the place of the one before it. -/
theorem callbacks_of_register (h : d.register name callback = .ok d') :
    d'.callbacks = d.callbacks.insert name callback := by
  unfold register at h
  split at h
  · cases h; rfl
  · split at h <;> cases h
    rfl

end Dispatcher

end PushRelay
