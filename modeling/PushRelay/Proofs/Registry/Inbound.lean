import Mathlib.Control.Monad.Basic
import PushRelay.Connection.Basic
import PushRelay.Proofs.Packet.Resolving
import PushRelay.Proofs.Registry.Invariant
import PushRelay.Registry.Scripted
import PushRelay.Transport.Scripted

/-!
# PushRelay.Proofs.Registry.Inbound

A text that comes in reaches its callback in two ways.

1. A connection reads it as a JSON value and hands that to its handler,
   which asks it for a name (`Connection.handleEvent`).
2. A router reads it as a packet, whose name is not empty, and hands the
   packet to the handler (`Registry.receive`).

The ways differ for an object with the empty name alone
(`Packet.Nameless`): the first one looks for a callback under the empty
name, and the second one has no packet.  That makes no difference to what
is run, since no handler has a callback under the empty name
(`Registry.Coherent`).
-/

namespace PushRelay

variable {κ : Type}

/-! ## The two ways -/

/-- A handler of a registry, held by a connection. -/
structure Held (κ : Type) where
  registry : Registry κ
  handler : Nat

instance [Behaviour κ] : MessageHandler (Held κ) where
  handle message held :=
    let (result, registry) := held.registry.handle held.handler message
    .done (result, { held with registry := registry })

namespace Registry

variable [Behaviour κ]

/-- Handles a text that is read as a packet. -/
def receive (r : Registry κ) (h : Nat) (text : String) : Except RelayError Unit × Registry κ :=
  match Packet.decode text with
  | .error e => (.error e, r)
  | .ok p => r.handlePacket h p

variable {r : Registry κ} {h : Nat} {x : Handler κ}

/-- A text that is no packet is refused as such. -/
theorem receive_of_error {text : String} {e : RelayError} (he : Packet.decode text = .error e) :
    r.receive h text = (.error e, r) := by
  rw [receive, he]

/-- A text that is a packet is handled as that packet. -/
theorem receive_of_ok {text : String} {p : Packet Json} (hp : Packet.decode text = .ok p) :
    r.receive h text = r.handlePacket h p := by
  rw [receive, hp]

omit [Behaviour κ] in
/-- No handler has a callback for the empty name. -/
theorem Coherent.find?_empty (hr : r.Coherent) (hx : r.Holds h x) :
    x.callbacks.find? "" = none := by
  cases hfind : x.callbacks.find? "" with
  | none => rfl
  | some callback =>
    have hmem : "" ∈ x.callbacks.keys := by
      rw [← Table.contains_iff_mem_keys, Table.contains, hfind]
      rfl
    exact absurd rfl (hr.callbacks_allowed h x hx "" hmem).1

/-- A handler that is there resolves a message with its callbacks. -/
theorem dispatch_of_holds (hx : r.Holds h x)
    (resolve : Dispatcher κ → Except RelayError (Call κ)) :
    r.dispatch h resolve =
      match resolve ⟨r.protocol x.protocol, x.callbacks⟩ with
      | .error e => (.error e, r)
      | .ok call => (.ok (), r.run call) := by
  cases hresolve : resolve ⟨r.protocol x.protocol, x.callbacks⟩ with
  | error e => simp only [dispatch, dispatcher?_of_holds hx, hresolve]
  | ok call => simp only [dispatch, dispatcher?_of_holds hx, hresolve]

theorem handle_of_error (hx : r.Holds h x) {message : Json} {e : RelayError}
    (he : Dispatcher.resolve ⟨r.protocol x.protocol, x.callbacks⟩ message = .error e) :
    r.handle h message = (.error e, r) := by
  rw [handle, dispatch_of_holds hx, he]

/-- A value that stands for a packet is handled as the packet is. -/
theorem handle_of_ofJson (hx : r.Holds h x) {message : Json} {p : Packet Json}
    (hp : Packet.ofJson message = .ok p) : r.handle h message = r.handlePacket h p := by
  rw [handle, handlePacket, dispatch_of_holds hx, dispatch_of_holds hx,
    Dispatcher.resolve_of_ofJson hp]

theorem handlePacket_of_none (hx : r.Holds h x) {p : Packet Json}
    (hfind : x.callbacks.find? p.name = none) :
    r.handlePacket h p = (.error (.handlerNotFound p.name), r) := by
  rw [handlePacket, dispatch_of_holds hx, Dispatcher.resolvePacket, Dispatcher.callFor, hfind]

theorem handlePacket_of_some (hx : r.Holds h x) {p : Packet Json} {callback : Callback κ}
    (hfind : x.callbacks.find? p.name = some callback) :
    r.handlePacket h p = (.ok (), r.run ⟨callback, p.data, p.name⟩) := by
  rw [handlePacket, dispatch_of_holds hx, Dispatcher.resolvePacket, Dispatcher.callFor, hfind]

end Registry

namespace Connection

variable {γ τ ℓ : Type} [Transport τ] [Listener ℓ] [Behaviour κ]

theorem handleEvent_of_error {c : Connection γ τ (Held κ) ℓ} {text : String} {e : RelayError}
    (hframe : Packet.decodeFrame text = .error e) (t : Nat) :
    c.handleEvent ⟨t, .message text⟩ = (.error e, c) := by
  simp only [handleEvent, handleMessage, hframe]

/-- A message of a connection is handled by the handler that it holds, and
nothing else changes. -/
theorem handleEvent_of_ok {c : Connection γ τ (Held κ) ℓ} {r r' : Registry κ} {h : Nat}
    {text : String} {value : Json} {result : Except RelayError Unit}
    (hc : c.handler = ⟨r, h⟩) (hframe : Packet.decodeFrame text = .ok value)
    (hhandle : r.handle h value = (result, r')) (t : Nat) :
    c.handleEvent ⟨t, .message text⟩ = (result, { c with handler := ⟨r', h⟩ }) := by
  simp only [handleEvent, handleMessage, hframe, hc, MessageHandler.handle, hhandle, carryOut]

/-- A connection whose handler is refused stays as it is. -/
theorem handleEvent_refused {c : Connection γ τ (Held κ) ℓ} {r : Registry κ} {h : Nat}
    {text : String} {value : Json} {e : RelayError}
    (hc : c.handler = ⟨r, h⟩) (hframe : Packet.decodeFrame text = .ok value)
    (hhandle : r.handle h value = (.error e, r)) (t : Nat) :
    c.handleEvent ⟨t, .message text⟩ = (.error e, c) := by
  rw [handleEvent_of_ok hc hframe hhandle, ← hc]

end Connection

namespace Registry

variable {γ τ ℓ : Type} [Transport τ] [Listener ℓ] [Behaviour κ]

/-- The two ways agree, for a handler of any registry that can be reached,
held by a connection.

1. A text that is no packet fails with the same error on both ways and runs
   nothing.
2. So does a packet without a callback.
3. A packet with a callback runs it once, on the name and the data of the
   packet, and both ways succeed.
4. There is one exception to the first, a message with the empty name, where
   the errors differ and nothing is run either. -/
theorem inbound_agree (ops : List (Operation κ)) (h : Nat) (x : Handler κ)
    (hx : (after {} ops).Holds h x) (c : Connection γ τ (Held κ) ℓ)
    (hc : c.handler = ⟨after {} ops, h⟩) (t : Nat) (text : String) :
    (∀ e, Packet.decode text = .error e → ¬ Packet.Nameless text →
      c.handleEvent ⟨t, .message text⟩ = (.error e, c) ∧
      (after {} ops).receive h text = (.error e, after {} ops)) ∧
    (∀ p, Packet.decode text = .ok p → x.callbacks.find? p.name = none →
      c.handleEvent ⟨t, .message text⟩ = (.error (.handlerNotFound p.name), c) ∧
      (after {} ops).receive h text = (.error (.handlerNotFound p.name), after {} ops)) ∧
    (∀ p callback, Packet.decode text = .ok p → x.callbacks.find? p.name = some callback →
      c.handleEvent ⟨t, .message text⟩ = (.ok (), { c with
        handler := ⟨(after {} ops).run ⟨callback, p.data, p.name⟩, h⟩ }) ∧
      (after {} ops).receive h text =
        (.ok (), (after {} ops).run ⟨callback, p.data, p.name⟩)) ∧
    (Packet.Nameless text →
      c.handleEvent ⟨t, .message text⟩ = (.error (.handlerNotFound ""), c) ∧
      (after {} ops).receive h text = (.error .malformedPacket, after {} ops)) := by
  have hcoherent : (after {} ops : Registry κ).Coherent :=
    ((grows_after {} ops).sound sound_empty).coherent
  generalize after {} ops = r at *
  refine ⟨?noPacket, ?noCallback, ?called, ?nameless⟩
  case noPacket =>
    intro e hdecode hnamed
    refine ⟨?_, receive_of_error hdecode⟩
    cases hframe : Packet.decodeFrame text with
    | error e' =>
      rw [Packet.decode, hframe] at hdecode
      cases hdecode
      exact Connection.handleEvent_of_error hframe t
    | ok value =>
      rw [Packet.decode, hframe] at hdecode
      obtain ⟨rfl, hcause⟩ := Dispatcher.resolve_of_ofJson_error
        (d := ⟨r.protocol x.protocol, x.callbacks⟩) hdecode
      rw [Packet.nameless_iff hframe] at hnamed
      have hrefused := handle_of_error hx (hcause.resolve_left hnamed)
      exact Connection.handleEvent_refused hc hframe hrefused t
  case noCallback =>
    intro p hdecode hfind
    obtain ⟨value, hframe, hpacket⟩ := Packet.decode_eq_ok_iff.mp hdecode
    have hrefused := handlePacket_of_none hx hfind
    refine ⟨?_, (receive_of_ok hdecode).trans hrefused⟩
    exact Connection.handleEvent_refused hc hframe ((handle_of_ofJson hx hpacket).trans hrefused) t
  case called =>
    intro p callback hdecode hfind
    obtain ⟨value, hframe, hpacket⟩ := Packet.decode_eq_ok_iff.mp hdecode
    have hcalled := handlePacket_of_some hx hfind
    refine ⟨?_, (receive_of_ok hdecode).trans hcalled⟩
    exact Connection.handleEvent_of_ok hc hframe ((handle_of_ofJson hx hpacket).trans hcalled) t
  case nameless =>
    intro hname
    obtain ⟨members, hframe, hmember⟩ := hname
    have hempty : (Json.object members).member? "name" = some (.string "") := hmember
    have hdecode : Packet.decode text = .error .malformedPacket := by
      rw [Packet.decode, hframe]
      exact Packet.ofJson_of_empty_name hempty
    have hrefused := handle_of_error hx
      (Dispatcher.resolve_of_empty_name (hcoherent.find?_empty hx) hempty)
    exact ⟨Connection.handleEvent_refused hc hframe hrefused t, receive_of_error hdecode⟩

/-- A handler that a callback may let grow, and four texts: a broken one, one
of another name, one that is called, and a nameless one. -/
theorem inbound_agree_growing :
    let r : Registry ScriptedAction := after {} [.netProtocol, .newHandler 0,
      .register 0 "chat" (.run (.register 0 "more"))]
    let c : Connection Unit ScriptedTransport (Held ScriptedAction) Unit :=
      { url := "ws://relay", connector := (), handler := ⟨r, 0⟩, listener := () }
    let broken := "[1"
    let other := "\x7b\"name\":\"other\"\x7d"
    let chat := "\x7b\"data\":[1],\"name\":\"chat\"\x7d"
    let nameless := "\x7b\"name\":\"\"\x7d"
    ∃ x, r.Holds 0 x ∧ ¬ Packet.Nameless broken ∧ Packet.Nameless nameless ∧
      (c.handleEvent ⟨7, .message broken⟩ = (.error (.json .truncated), c) ∧
        r.receive 0 broken = (.error (.json .truncated), r)) ∧
      (c.handleEvent ⟨7, .message other⟩ = (.error (.handlerNotFound "other"), c) ∧
        r.receive 0 other = (.error (.handlerNotFound "other"), r)) ∧
      (∃ r', c.handleEvent ⟨7, .message chat⟩ = (.ok (), { c with handler := ⟨r', 0⟩ }) ∧
        r.receive 0 chat = (.ok (), r')) ∧
      c.handleEvent ⟨7, .message nameless⟩ = (.error (.handlerNotFound ""), c) ∧
      r.receive 0 nameless = (.error .malformedPacket, r) := by
  intro r c broken other chat nameless
  obtain ⟨x, hx, hnone, hsome⟩ : ∃ x, r.Holds 0 x ∧ x.callbacks.find? "other" = none ∧
      x.callbacks.find? "chat" = some (.run (.register 0 "more")) := ⟨_, rfl, rfl, rfl⟩
  have hbroken : Packet.decode broken = .error (.json .truncated) := by decide +kernel
  have hother : Packet.decode other = .ok ⟨"other", .null, by decide⟩ := by decide +kernel
  have hchat : Packet.decode chat =
      .ok ⟨"chat", .array [.number (.whole 1 (by decide))], by decide⟩ := by
    decide +kernel
  have hnamed : ¬ Packet.Nameless broken := by
    have hframe : Packet.decodeFrame broken = .error (.json .truncated) := by decide +kernel
    rintro ⟨members, hmembers, -⟩
    rw [hframe] at hmembers
    cases hmembers
  have hnameless : Packet.Nameless nameless := by
    have hframe : Packet.decodeFrame nameless = .ok (.object [("name", .string "")]) := by
      decide +kernel
    exact ⟨_, hframe, by decide⟩
  obtain ⟨hrefused, -⟩ := inbound_agree _ 0 x hx c rfl 7 broken
  obtain ⟨-, huncalled, -⟩ := inbound_agree _ 0 x hx c rfl 7 other
  obtain ⟨-, -, hcalled, -⟩ := inbound_agree _ 0 x hx c rfl 7 chat
  obtain ⟨-, -, -, hexception⟩ := inbound_agree _ 0 x hx c rfl 7 nameless
  exact ⟨x, hx, hnamed, hnameless, hrefused _ hbroken hnamed, huncalled _ hother hnone,
    ⟨_, hcalled _ _ hchat hsome⟩, hexception hnameless⟩

end Registry

end PushRelay
