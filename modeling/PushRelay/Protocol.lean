import PushRelay.Packet.Basic

/-!
# PushRelay.Protocol

A protocol is the set of packets that may be used, with a factory for each
name.

1. Every way into a protocol but its two first packets goes through
   `Protocol.add`, which refuses the empty name and the name `add`.
2. Adding a name again changes nothing, since a factory is known by its
   name.
3. `Protocol.net` has the two control packets of services from the start.
-/

namespace PushRelay

/-- The name that no packet may have. -/
def reservedName : String := "add"

/-- The control packet by which a service is subscribed to. -/
def subscribeName : String := "subscribe"

/-- The control packet by which a subscription is ended. -/
def unsubscribeName : String := "unsubscribe"

/-- The member of a control packet's data that names the service. -/
def serviceMember : String := "service"

/-- The packets that may be used, by name. -/
structure Protocol where
  packets : Table String Packet.Factory
deriving DecidableEq

namespace Protocol

/-- The protocol without packets. -/
def empty : Protocol := ⟨∅⟩

instance : EmptyCollection Protocol := ⟨empty⟩

instance : Inhabited Protocol := ⟨empty⟩

/-- The protocol of services: the two control packets. -/
def net : Protocol :=
  ⟨(empty.packets.insert subscribeName ⟨subscribeName, by decide⟩).insert
    unsubscribeName ⟨unsubscribeName, by decide⟩⟩

/-- Adds a packet, and returns its factory as well. -/
def add (p : Protocol) (name : String) : Except RelayError (Packet.Factory × Protocol) :=
  if name = reservedName then .error (.invalidPacketName name)
  else match Packet.bindName name with
    | .error e => .error e
    | .ok factory => .ok (factory, ⟨p.packets.insert name factory⟩)

/-- Adds a packet if its name may be added. -/
def addIfAllowed (p : Protocol) (name : String) : Protocol :=
  match p.add name with
  | .error _ => p
  | .ok (_, q) => q

def contains (p : Protocol) (name : String) : Bool := p.packets.contains name

/-- The factory of a packet of the protocol. -/
def get? (p : Protocol) (name : String) : Option Packet.Factory := p.packets.find? name

/-- The packet of the protocol with this name and data. -/
def packet (p : Protocol) (name : String) (data : Json) : Except RelayError (Packet Json) :=
  match p.get? name with
  | some factory => .ok (factory.create data)
  | none => .error (.unknownPacket name)

/-- The names of the packets, ascending. -/
def names (p : Protocol) : List String := p.packets.keys

def size (p : Protocol) : Nat := p.packets.size

/-- The text of a protocol in a report. -/
def report (p : Protocol) : String :=
  "Protocol \x7b packets: " ++ Text.quotedList p.names ++ " \x7d"

/-! ## Laws -/

/-- A name that may be added. -/
def Allowed (name : String) : Prop := name ≠ "" ∧ name ≠ reservedName

instance (name : String) : Decidable (Allowed name) := inferInstanceAs (Decidable (_ ∧ _))

variable {p q : Protocol} {name : String} {f : Packet.Factory} {e : RelayError}

/-- A name that is not reserved is added, with the factory for its packets. -/
theorem add_eq_ok_iff :
    p.add name = .ok (f, q) ↔
      f.name = name ∧ name ≠ reservedName ∧ q = ⟨p.packets.insert name f⟩ := by
  unfold add
  by_cases hr : name = reservedName
  · simp [hr]
  · cases hb : Packet.bindName name with
    | error e' =>
      obtain ⟨rfl, -⟩ := Packet.bindName_eq_error_iff.1 hb
      simp only [hr, if_false, reduceCtorEq, false_iff]
      rintro ⟨h, -⟩
      exact f.name_ne h
    | ok g =>
      have hg := Packet.bindName_eq_ok_iff.1 hb
      simp only [hr, if_false, Except.ok.injEq, Prod.mk.injEq, ne_eq, not_false_eq_true, true_and]
      constructor
      · rintro ⟨rfl, rfl⟩; exact ⟨hg, rfl⟩
      · rintro ⟨hf, rfl⟩
        have : g = f := by cases g; cases f; simp_all
        exact ⟨this, by rw [this]⟩

/-- The names that are refused are the empty and the reserved one. -/
theorem add_eq_error_iff :
    p.add name = .error e ↔ ¬ Allowed name ∧ e = .invalidPacketName name := by
  unfold add Allowed
  by_cases hr : name = reservedName
  · simp [hr, eq_comm]
  · cases hb : Packet.bindName name with
    | error e' =>
      obtain ⟨rfl, rfl⟩ := Packet.bindName_eq_error_iff.1 hb
      simp [hr, eq_comm]
    | ok g =>
      have hg := Packet.bindName_eq_ok_iff.1 hb
      have : name ≠ "" := hg ▸ g.name_ne
      simp [hr, this]

end Protocol

/-- The data of a control packet for a service. -/
def servicePayload (service : String) : Json := .object [(serviceMember, .string service)]

end PushRelay
