import PushRelay.Error
import PushRelay.Json.Basic

/-!
# PushRelay.Packet.Basic

A packet is a name and data.  The name is not empty, which is part of the
type, so every way to a packet or a factory checks it.

A factory has the name bound and asks for the data; a bound packet has both
and gives the same packet each time.
-/

namespace PushRelay

/-- A message with a name; most packets carry a JSON value. -/
structure Packet (α : Type) where
  name : String
  data : α
  name_ne : name ≠ ""

namespace Packet

instance {α : Type} [DecidableEq α] : DecidableEq (Packet α) := fun p q =>
  if h : p.name = q.name ∧ p.data = q.data then
    .isTrue (by cases p; cases q; simp_all)
  else .isFalse (by rintro rfl; exact h ⟨rfl, rfl⟩)

/-- The packet with this name and data. -/
def ofName {α : Type} (name : String) (data : α) : Except RelayError (Packet α) :=
  if h : name = "" then .error (.invalidPacketName name) else .ok ⟨name, data, h⟩

/-- A name to which data is still to come. -/
structure Factory where
  name : String
  name_ne : name ≠ ""
deriving DecidableEq

/-- A name and data of which packets are made. -/
structure Bound where
  name : String
  data : Json
  name_ne : name ≠ ""

instance : DecidableEq Bound := fun p q =>
  if h : p.name = q.name ∧ p.data = q.data then
    .isTrue (by cases p; cases q; simp_all)
  else .isFalse (by rintro rfl; exact h ⟨rfl, rfl⟩)

/-- The factory of packets with this name. -/
def bindName (name : String) : Except RelayError Factory :=
  if h : name = "" then .error (.invalidPacketName name) else .ok ⟨name, h⟩

/-- The packet that a factory makes with the given data. -/
def Factory.create (f : Factory) (data : Json) : Packet Json := ⟨f.name, data, f.name_ne⟩

/-- Binds the data as well. -/
def Factory.bind (f : Factory) (data : Json) : Bound := ⟨f.name, data, f.name_ne⟩

/-- The bound packet with this name and data. -/
def bindNameAndData (name : String) (data : Json) : Except RelayError Bound :=
  (bindName name).map fun f => f.bind data

/-- The packet that a bound packet makes. -/
def Bound.create (b : Bound) : Packet Json := ⟨b.name, b.data, b.name_ne⟩

/-! ## Laws -/

/-- A factory makes packets of the name it was asked for. -/
theorem bindName_eq_ok_iff {name : String} {f : Factory} :
    bindName name = .ok f ↔ f.name = name := by
  unfold bindName
  split
  · rename_i h
    simp only [reduceCtorEq, false_iff]
    rintro rfl
    exact f.name_ne h
  · cases f; simp [eq_comm]

/-- Only the empty name has no factory. -/
theorem bindName_eq_error_iff {name : String} {e : RelayError} :
    bindName name = .error e ↔ name = "" ∧ e = .invalidPacketName "" := by
  unfold bindName
  split
  · subst_vars; simp [eq_comm]
  · simp_all

end Packet

end PushRelay
