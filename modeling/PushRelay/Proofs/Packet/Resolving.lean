import PushRelay.Dispatcher
import PushRelay.Packet.Frame

/-!
# PushRelay.Proofs.Packet.Resolving

What a dispatcher makes of a JSON value, next to what it makes of the
packet that the value stands for.  Both are the same (`resolve_of_ofJson`),
and a value that stands for no packet is refused; but a value with the
empty name is refused for want of a callback.
-/

namespace PushRelay

variable {κ : Type}

/-- A text that holds an object whose name is the empty text. -/
def Packet.Nameless (text : String) : Prop :=
  ∃ members, Packet.decodeFrame text = .ok (.object members) ∧
    Entries.find? "name" members = some (.string "")

/-- A message is nameless if its name is the empty string. -/
theorem Packet.nameless_iff {text : String} {value : Json}
    (h : Packet.decodeFrame text = .ok value) :
    Packet.Nameless text ↔ value.member? "name" = some (.string "") := by
  constructor
  · intro hname
    obtain ⟨members, hframe, hmember⟩ := hname
    rw [h] at hframe
    rw [Except.ok.inj hframe]
    exact hmember
  · intro hmember
    cases value with
    | object members => exact ⟨members, h, hmember⟩
    | _ => contradiction

/-- A value with the empty name stands for no packet. -/
theorem Packet.ofJson_of_empty_name {value : Json}
    (hname : value.member? "name" = some (.string "")) :
    Packet.ofJson value = .error .malformedPacket := by
  simp [Packet.ofJson, hname]

namespace Dispatcher

variable {d : Dispatcher κ} {value : Json} {p : Packet Json} {e : RelayError}

/-- A value that stands for a packet is resolved as the packet is. -/
theorem resolve_of_ofJson (h : Packet.ofJson value = .ok p) :
    d.resolve value = d.resolvePacket p := by
  obtain ⟨hname, hdata⟩ := Packet.ofJson_eq_ok_iff.mp h
  rw [resolve, resolvePacket, hname, hdata]

/-- A value that stands for no packet has the empty name or none. -/
theorem resolve_of_ofJson_error (h : Packet.ofJson value = .error e) :
    e = .malformedPacket ∧
      (value.member? "name" = some (.string "") ∨ d.resolve value = .error .malformedPacket) := by
  unfold Packet.ofJson at h
  split at h
  · next name hname =>
    by_cases hempty : name = ""
    · rw [dif_pos hempty] at h
      rw [hempty] at hname
      exact ⟨(Except.error.inj h).symm, .inl hname⟩
    · rw [dif_neg hempty] at h
      contradiction
  · next hname =>
    refine ⟨(Except.error.inj h).symm, .inr ?_⟩
    unfold resolve
    split
    · next name hsome => exact absurd hsome (hname name)
    · rfl

/-- Without a callback under the empty name, a value that has this name is
resolved to none. -/
theorem resolve_of_empty_name (hd : d.callbacks.find? "" = none)
    (hname : value.member? "name" = some (.string "")) :
    d.resolve value = .error (.handlerNotFound "") := by
  rw [resolve, hname]
  simp only [callFor, hd]

end Dispatcher

end PushRelay
