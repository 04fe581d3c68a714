import PushRelay.Proofs.Packet.RoundTrip
import PushRelay.Proofs.Registry.Names
import PushRelay.Router.Peer
import PushRelay.Service

/-!
# PushRelay.Proofs.Router.Control

What the frames of a connection ask of a router.

1. A frame asks for something if it is read as one of the two control
   packets and its data names a service (`Control.ofFrame?`).
2. Every peer that a router makes does what its frames ask for, and nothing
   else (`Directory.receive_of_ready`).
3. The control packets of a client ask for its service, by the name that
   the client has for it (`Control.ofFrame?_packet`).
-/

namespace PushRelay

variable {κ : Type}

/-! ## Requests -/

/-- The packet by which a control is asked for. -/
def Control.packetName : Control → String
  | .subscribe => subscribeName
  | .unsubscribe => unsubscribeName

/-- The control that packets of this name ask for. -/
def Control.ofName? (name : String) : Option Control :=
  if name = subscribeName then some .subscribe
  else if name = unsubscribeName then some .unsubscribe
  else none

/-- What a frame asks for: a control, and the name of a service. -/
def Control.ofFrame? (text : String) : Option (Control × String) :=
  match Packet.decode text with
  | .error _ => none
  | .ok p => (Control.ofName? p.name).bind fun control => (serviceOf? p.data).map (control, ·)

namespace Directory

/-- Carries out a control for the service with number `n`. -/
def controlAt (d : Directory) (n id q : Nat) : Control → Directory
  | .subscribe => (d.subscribeTo n id q).2
  | .unsubscribe => (d.unsubscribeFrom n id).2

/-- Does what a frame asks for, for a connection with its queue. -/
def obey (d : Directory) (id q : Nat) : Option (Control × String) → Directory
  | none => d
  | some (control, service) =>
    match d.number? service with
    | none => d
    | some n => d.controlAt n id q control

variable {d : Directory} {id q n : Nat} {service : String}

theorem obey_of_none (h : d.number? service = none) (control : Control) :
    d.obey id q (some (control, service)) = d := by
  rw [obey, h]

theorem obey_of_some (h : d.number? service = some n) (control : Control) :
    d.obey id q (some (control, service)) = d.controlAt n id q control := by
  rw [obey, h]

/-- What no control changes is not changed by what a frame asks for. -/
theorem obey_eq_of {α : Type} (f : Directory → α)
    (h : ∀ n control, f (d.controlAt n id q control) = f d)
    (request : Option (Control × String)) : f (d.obey id q request) = f d := by
  unfold obey
  split
  · rfl
  · split
    · rfl
    · exact h _ _

end Directory

namespace Control

variable {name : String} {control : Control}

/-- There is a control for its own packet name only. -/
theorem ofName?_eq_some_iff : ofName? name = some control ↔ name = control.packetName := by
  have hne : subscribeName ≠ unsubscribeName := by decide
  unfold ofName?
  cases control with
  | subscribe =>
    by_cases hs : name = subscribeName
    · simp [hs, packetName]
    · by_cases hu : name = unsubscribeName <;> simp [hs, hu, packetName, hne.symm]
  | unsubscribe =>
    by_cases hs : name = subscribeName
    · simp [hs, packetName, hne]
    · by_cases hu : name = unsubscribeName <;> simp [hs, hu, packetName, hne.symm]

/-- A frame that is read as a packet which is no control packet, or whose
data names no service, asks for nothing. -/
theorem ofFrame?_eq_none_iff {text : String} :
    ofFrame? text = none ↔ ∀ p, Packet.decode text = .ok p →
      (p.name ≠ subscribeName ∧ p.name ≠ unsubscribeName) ∨ serviceOf? p.data = none := by
  unfold ofFrame?
  cases Packet.decode text with
  | error e => simp
  | ok p =>
    simp only [Except.ok.injEq, forall_eq', Option.bind_eq_none_iff, Option.map_eq_none_iff]
    constructor
    · intro h
      by_cases hname : p.name ≠ subscribeName ∧ p.name ≠ unsubscribeName
      · exact .inl hname
      · right
        have hcontrol : ∃ control : Control, p.name = control.packetName := by
          by_cases hs : p.name = subscribeName
          · exact ⟨.subscribe, hs⟩
          · exact ⟨.unsubscribe, Classical.byContradiction fun hu => hname ⟨hs, hu⟩⟩
        obtain ⟨control, hcontrol⟩ := hcontrol
        exact h control (ofName?_eq_some_iff.mpr hcontrol)
    · intro h control hcontrol
      cases h with
      | inl hname =>
        rw [ofName?_eq_some_iff] at hcontrol
        cases control with
        | subscribe => exact absurd hcontrol hname.1
        | unsubscribe => exact absurd hcontrol hname.2
      | inr hservice => exact hservice

end Control

/-! ## Peers -/

/-- A peer runs a control for each of the two control packets, and nothing
for any other. -/
def Peer.Ready (peer : Peer) : Prop :=
  ∀ name control, peer.dispatcher.callbacks.find? name = some (.run control) ↔
    name = control.packetName

namespace Dispatcher

variable {d : Dispatcher κ} {name : String}

/-- A name that may be added is always registered. -/
theorem exists_register (d : Dispatcher κ) (h : Protocol.Allowed name) (callback : Callback κ) :
    ∃ d', d.register name callback = .ok d' := by
  cases hr : d.register name callback with
  | ok d' => exact ⟨d', rfl⟩
  | error e => exact absurd h (register_eq_error_iff.mp hr).2.1

/-- A new dispatcher runs nothing. -/
theorem find?_ofProtocol_ne_run (p : Protocol) (name : String) (action : κ) :
    (ofProtocol p).callbacks.find? name ≠ some (.run action) := by
  intro h
  have hmem := Table.mem_entries_iff.mpr h
  simp [ofProtocol, Table.map] at hmem

end Dispatcher

namespace Peer

variable {p : Protocol} {id queue : Nat} {peer : Peer}

/-- A router can always make a peer. -/
theorem exists_ofProtocol (p : Protocol) (id queue : Nat) :
    ∃ peer, ofProtocol p id queue = .ok peer := by
  have hsubscribe : Protocol.Allowed subscribeName := by decide
  have hunsubscribe : Protocol.Allowed unsubscribeName := by decide
  obtain ⟨d, hd⟩ := (Dispatcher.ofProtocol p).exists_register hsubscribe (.run Control.subscribe)
  obtain ⟨d', hd'⟩ := d.exists_register hunsubscribe (.run .unsubscribe)
  exact ⟨⟨id, queue, d'⟩, by rw [ofProtocol, hd]; simp [hd', Except.map]⟩

theorem ofProtocol_eq_ok (h : ofProtocol p id queue = .ok peer) :
    peer.id = id ∧ peer.queue = queue ∧ peer.Ready := by
  unfold ofProtocol at h
  split at h
  · contradiction
  · next d hsubscribe =>
    cases hunsubscribe : d.register unsubscribeName (.run .unsubscribe) with
    | error e =>
      rw [hunsubscribe] at h
      contradiction
    | ok d' =>
      rw [hunsubscribe] at h
      cases h
      refine ⟨rfl, rfl, ?_⟩
      intro name control
      have hseeded := Dispatcher.find?_ofProtocol_ne_run p name control
      have hne : subscribeName ≠ unsubscribeName := by decide
      rw [Dispatcher.callbacks_of_register hunsubscribe, Table.find?_insert,
        Dispatcher.callbacks_of_register hsubscribe, Table.find?_insert]
      by_cases hu : name = unsubscribeName
      · cases control <;> simp [hu, Control.packetName, hne.symm]
      · by_cases hs : name = subscribeName
        · cases control <;> simp [hs, hne, Control.packetName]
        · cases control <;> simp [hs, hu, hseeded, Control.packetName]

end Peer

/-- A peer does what its frames ask for, and nothing else. -/
theorem Directory.receive_of_ready {peer : Peer} (hpeer : peer.Ready) (d : Directory)
    (text : String) : d.receive peer text = d.obey peer.id peer.queue (Control.ofFrame? text) := by
  cases hdecode : Packet.decode text with
  | error e => simp [receive, callOf, Control.ofFrame?, hdecode, obey]
  | ok p =>
    have hcall : callOf peer text = peer.dispatcher.callFor p.name p.data := by
      simp [callOf, hdecode, Dispatcher.resolvePacket]
    rw [receive, hcall, Dispatcher.callFor, Control.ofFrame?, hdecode]
    cases hname : Control.ofName? p.name with
    | some control =>
      have hrun := (hpeer p.name control).mpr (Control.ofName?_eq_some_iff.mp hname)
      simp only [hrun, perform, Directory.control, hname, Option.bind_some]
      cases serviceOf? p.data with
      | none => rfl
      | some service =>
        cases hnumber : d.number? service with
        | none => cases control <;> simp [subscribe, unsubscribe, obey, hnumber]
        | some n => cases control <;> simp [subscribe, unsubscribe, obey, controlAt, hnumber]
    | none =>
      -- what is registered for the name is nothing to do, if there is anything
      cases hfind : peer.dispatcher.callbacks.find? p.name with
      | none => simp [hname, obey]
      | some callback =>
        cases callback with
        | noop => simp [hname, perform, obey]
        | run control =>
          have hcontrol := Control.ofName?_eq_some_iff.mpr ((hpeer p.name control).mp hfind)
          rw [hname] at hcontrol
          contradiction

/-! ## The control packets of a client -/

namespace Service

/-- The packet by which a client asks for a control. -/
def packet (s : Service κ) : Control → Packet Json
  | .subscribe => s.subscribePacket
  | .unsubscribe => s.unsubscribePacket

/-- The service was made over a protocol that knows every packet by its own
name. -/
def Made (s : Service κ) : Prop :=
  ∃ (p : Protocol) (entries : List (String × Option (Callback κ))),
    p.Sound ∧ ofEntries s.name p entries = .ok s

/-- The factory of a control makes packets of its name. -/
theorem control_eq_ok {p : Protocol} (hp : p.Sound) {name : String} {f : Packet.Factory}
    (h : control p name = .ok f) : f.name = name := by
  unfold control at h
  split at h
  · next hf =>
    cases h
    exact (hp name f hf).2
  · contradiction

/-- A service that was made has a name, and the control packets. -/
theorem Made.names {s : Service κ} (h : s.Made) :
    s.name ≠ "" ∧ ∀ control, (s.packet control).name = control.packetName := by
  obtain ⟨p, entries, hp, h⟩ := h
  unfold ofEntries at h
  split at h
  · contradiction
  next hname =>
  split at h
  · contradiction
  split at h
  · contradiction
  next subscribeFactory hsubscribe =>
  split at h
  · contradiction
  next unsubscribeFactory hunsubscribe =>
  have hs := Except.ok.inj h
  refine ⟨hname, fun control => ?_⟩
  cases control with
  | subscribe =>
    rw [packet, subscribePacket, ← hs]
    exact control_eq_ok hp hsubscribe
  | unsubscribe =>
    rw [packet, unsubscribePacket, ← hs]
    exact control_eq_ok hp hunsubscribe

theorem data_packet (s : Service κ) (control : Control) :
    (s.packet control).data = servicePayload s.name := by
  cases control <;> rfl

end Service

theorem readable_servicePayload (depth : Nat) (name : String) :
    (servicePayload name).Readable (depth + 1) := by
  refine Json.readable_object_iff.mpr ⟨List.pairwise_singleton _ _, ?_⟩
  exact List.forall_mem_singleton.mpr
    ⟨Json.shaped_of_depth_eq_zero rfl, List.forall_mem_nil _⟩

/-- The data of a control packet name its service. -/
theorem serviceOf?_servicePayload (name : String) :
    serviceOf? (servicePayload name) = some name := by
  simp [serviceOf?, servicePayload, Json.member?, Entries.find?, Json.string?]

/-- The frame of a control packet is read as that packet. -/
theorem Service.decode_packet (s : Service κ) (control : Control) {frame : String}
    (hframe : (s.packet control).encode = .ok frame) :
    Packet.decode frame = .ok (s.packet control) := by
  obtain ⟨rfl, hsize⟩ := Packet.encode_eq_ok_iff.mp hframe
  apply Packet.decode_text _ hsize
  rw [s.data_packet]
  exact readable_servicePayload 125 s.name

/-- The control packets of a service ask for the service of its name. -/
theorem Control.ofFrame?_packet {s : Service κ} {control : Control} {frame : String}
    (hname : (s.packet control).name = control.packetName)
    (hframe : (s.packet control).encode = .ok frame) :
    Control.ofFrame? frame = some (control, s.name) := by
  simp only [Control.ofFrame?, s.decode_packet control hframe,
    Control.ofName?_eq_some_iff.mpr hname, s.data_packet, serviceOf?_servicePayload,
    Option.bind_some, Option.map_some]

end PushRelay
