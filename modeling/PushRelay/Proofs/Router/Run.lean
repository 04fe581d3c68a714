import PushRelay.Proofs.Router.Control
import PushRelay.Proofs.Router.Services
import PushRelay.Router.Basic

/-!
# PushRelay.Proofs.Router.Run

Runs of a router: connections are accepted and end, their frames come in,
their readers hang up, services are made, registered and push, and packets
are added to the protocol.

Every action is a chain of steps of the services and the queues
(`steps_act`), so what holds of these in all chains holds in all runs
(`sound_after`), as far as the pushes of the run allow.
-/

namespace PushRelay

namespace Router

/-- What happens to a router. -/
inductive Action where
  | accept
  /-- a frame of a connection comes in -/
  | receive (id : Nat) (text : String)
  | hangUp (id : Nat)
  | finish (id : Nat)
  | push (service : Nat) (p : Packet Json)
  | newService (name : String) (historyLength : Nat)
  | register (service : Nat)
  | addPacket (name : String)

/-- Carries out an action. -/
def act (r : Router) : Action → Router
  | .accept => r.accept.2
  | .receive id text => r.receive id text
  | .hangUp id => r.hangUp id
  | .finish id => r.finish id
  | .push n p => (r.push n p).2
  | .newService name length =>
    match PushService.ofName name length with
    | .error _ => r
    | .ok s => { r with directory := (r.directory.newService s).2 }
  | .register n => { r with directory := (r.directory.register n).2 }
  | .addPacket name => { r with protocol := r.protocol.addIfAllowed name }

theorem act_push (r : Router) (n : Nat) (p : Packet Json) :
    r.act (.push n p) = { r with directory := (r.directory.push n p).2 } := by
  rw [act, push]

/-- The router after a run of actions. -/
def after (r : Router) (acts : List Action) : Router := acts.foldl act r

@[simp] theorem after_nil (r : Router) : r.after [] = r := rfl

@[simp] theorem after_cons (r : Router) (a : Action) (acts : List Action) :
    r.after (a :: acts) = (r.act a).after acts := rfl

/-- The actions of a run, each with the router that it found. -/
def history (r : Router) : List Action → List (Router × Action)
  | [] => []
  | a :: acts => (r, a) :: (r.act a).history acts

theorem history_append (r : Router) (acts more : List Action) :
    r.history (acts ++ more) = r.history acts ++ (r.after acts).history more := by
  induction acts generalizing r with
  | nil => rfl
  | cons a acts ih => rw [List.cons_append, history, ih, history, List.cons_append, after_cons]

theorem exists_of_mem_history {r : Router} {acts : List Action} {x : Router × Action}
    (h : x ∈ r.history acts) :
    ∃ before more, acts = before ++ x.2 :: more ∧ x.1 = r.after before := by
  induction acts generalizing r with
  | nil => contradiction
  | cons a acts ih =>
    cases List.mem_cons.mp h with
    | inl hx =>
      rw [hx]
      exact ⟨[], acts, rfl, rfl⟩
    | inr hx =>
      obtain ⟨before, more, hacts, hr⟩ := ih hx
      exact ⟨a :: before, more, by rw [hacts, List.cons_append], hr⟩

end Router

namespace Directory

variable {P : Nat → Packet Json → Prop}

/-- A frame of a peer subscribes it to a service, unsubscribes it from one,
or does nothing. -/
theorem receive_cases (d : Directory) (peer : Peer) (text : String) :
    d.receive peer text = d ∨
      (∃ n, d.receive peer text = (d.subscribeTo n peer.id peer.queue).2) ∨
      ∃ n, d.receive peer text = (d.unsubscribeFrom n peer.id).2 := by
  unfold receive
  split
  · exact .inl rfl
  · unfold perform
    split
    · exact .inl rfl
    · unfold control
      split
      · exact .inl rfl
      · unfold subscribe
        split
        · exact .inl rfl
        · exact .inr (.inl ⟨_, rfl⟩)
      · unfold unsubscribe
        split
        · exact .inl rfl
        · exact .inr (.inr ⟨_, rfl⟩)

/-- What a text asks for is done in steps. -/
theorem steps_receive (d : Directory) (peer : Peer) (text : String) :
    Steps P d (d.receive peer text) := by
  obtain h | ⟨n, h⟩ | ⟨n, h⟩ := d.receive_cases peer text
  · rw [h]
  · rw [h]
    exact .single (.subscribed d n peer.id peer.queue)
  · rw [h]
    exact .single (.unsubscribed d n peer.id)

theorem steps_unsubscribeAll (d : Directory) (id : Nat) : Steps P d (d.unsubscribeAll id) := by
  unfold unsubscribeAll
  generalize d.index.values = ns
  induction ns generalizing d with
  | nil => exact .refl
  | cons n ns ih => exact .head (.unsubscribed d n id) (ih _)

end Directory

namespace Router

variable {P : Nat → Packet Json → Prop} {r : Router} {a : Action} {id : Nat} {peer : Peer}

/-- What is known of the packets that a run pushes: the property `P`, and
that they are named like the service that pushes them. -/
def Pushes (P : Nat → Packet Json → Prop) (r : Router) (a : Action) : Prop :=
  ∀ n p, a = .push n p → P n p ∧ ∀ name, r.directory.nameOf? n = some name → p.name = name

/-- What a run pushes is one of its actions. -/
theorem pushes_of_mem_history {acts : List Action}
    (h : ∀ x ∈ r.history acts, x.1.Pushes P x.2) :
    ∀ x ∈ r.history acts, x.1.Pushes (fun n p => P n p ∧ .push n p ∈ acts) x.2 := by
  intro x hx n p hp
  obtain ⟨before, more, hacts, -⟩ := exists_of_mem_history hx
  obtain ⟨hknown, hname⟩ := h x hx n p hp
  have hmem : .push n p ∈ acts := by
    rw [hacts, ← hp]
    exact List.mem_append_right _ List.mem_cons_self
  exact ⟨⟨hknown, hmem⟩, hname⟩

/-! ## What an action does -/

theorem accept_of_full (h : counterSize ≤ r.online + 1) : r.accept = (none, r) := by
  rw [accept, tryCount, if_pos h]

theorem accept_of_le (h : r.maxConnections ≤ r.online) : r.accept = (none, r) := by
  unfold accept tryCount
  split
  · rfl
  · next hcount =>
    split at hcount
    · contradiction
    · rw [if_neg (Nat.not_lt.mpr h)] at hcount
      cases hcount
      rfl
  · next hcount =>
    split at hcount
    · contradiction
    · rw [if_neg (Nat.not_lt.mpr h)] at hcount
      cases hcount

/-- A connection that is accepted gets the next number and a new queue. -/
theorem accept_of_lt (h : r.online < r.maxConnections) (hroom : r.online + 1 < counterSize) :
    ∃ peer, Peer.ofProtocol r.protocol r.nextId r.directory.queues.length = .ok peer ∧
      r.accept = (some r.nextId, { r with
        directory := r.directory.newQueue.2
        online := r.online + 1
        nextId := r.nextId + 1
        peers := r.peers.insert r.nextId peer }) := by
  obtain ⟨peer, hpeer⟩ := Peer.exists_ofProtocol r.protocol r.nextId r.directory.queues.length
  refine ⟨peer, hpeer, ?_⟩
  rw [accept, tryCount, if_neg (Nat.not_le.mpr hroom), if_pos h]
  simp only [Directory.newQueue, hpeer]

/-- Accepting a connection enters a peer with the next number and a new
queue, or leaves the services, the queues and the peers as they are. -/
theorem accept_cases (r : Router) :
    (r.accept.2.directory = r.directory ∧ r.accept.2.peers = r.peers) ∨
    ∃ peer, Peer.ofProtocol r.protocol r.nextId r.directory.queues.length = .ok peer ∧
      r.accept.2.directory = r.directory.newQueue.2 ∧
      r.accept.2.peers = r.peers.insert r.nextId peer := by
  by_cases hroom : counterSize ≤ r.online + 1
  · rw [accept_of_full hroom]
    exact .inl ⟨rfl, rfl⟩
  by_cases hlimit : r.maxConnections ≤ r.online
  · rw [accept_of_le hlimit]
    exact .inl ⟨rfl, rfl⟩
  obtain ⟨peer, hpeer, haccept⟩ := accept_of_lt (Nat.lt_of_not_le hlimit) (Nat.lt_of_not_le hroom)
  rw [haccept]
  exact .inr ⟨peer, hpeer, rfl, rfl⟩

theorem receive_of_none (h : r.peers.find? id = none) (text : String) :
    r.receive id text = r := by
  simp only [receive, h]

theorem receive_of_some (h : r.peers.find? id = some peer) (text : String) :
    r.receive id text = { r with directory := r.directory.receive peer text } := by
  simp only [receive, h]

theorem hangUp_of_none (h : r.peers.find? id = none) : r.hangUp id = r := by
  simp only [hangUp, h]

theorem hangUp_of_some (h : r.peers.find? id = some peer) :
    r.hangUp id = { r with directory := r.directory.hangUp peer.queue } := by
  simp only [hangUp, h]

theorem finish_of_none (h : r.peers.find? id = none) : r.finish id = r := by
  simp only [finish, h]

theorem finish_of_some (h : r.peers.find? id = some peer) :
    r.finish id =
      { r with
        directory := (r.directory.unsubscribeAll id).hangUp peer.queue
        online := (r.online + (counterSize - 1)) % counterSize
        peers := r.peers.erase id } := by
  simp only [finish, h, uncount]

theorem peers_receive (r : Router) (id : Nat) (text : String) :
    (r.receive id text).peers = r.peers := by
  cases hpeer : r.peers.find? id with
  | none => rw [receive_of_none hpeer]
  | some peer => rw [receive_of_some hpeer]

theorem peers_hangUp (r : Router) (id : Nat) : (r.hangUp id).peers = r.peers := by
  cases hpeer : r.peers.find? id with
  | none => rw [hangUp_of_none hpeer]
  | some peer => rw [hangUp_of_some hpeer]

theorem find?_peers_finish (r : Router) (id id' : Nat) :
    (r.finish id).peers.find? id' = if id' = id then none else r.peers.find? id' := by
  cases hpeer : r.peers.find? id with
  | none =>
    rw [finish_of_none hpeer]
    split
    · next hid => rw [hid, hpeer]
    · rfl
  | some peer => rw [finish_of_some hpeer, Table.find?_erase]

/-- Only connections that come or go change more than the protocol and the
services. -/
theorem act_cases (r : Router) (a : Action) : a = .accept ∨ (∃ id, a = .finish id) ∨
    r.act a = { r with protocol := (r.act a).protocol, directory := (r.act a).directory } := by
  cases a with
  | accept => exact .inl rfl
  | finish id => exact .inr (.inl ⟨id, rfl⟩)
  | receive id text =>
    right; right
    cases hpeer : r.peers.find? id with
    | none => rw [act, receive_of_none hpeer]
    | some peer => rw [act, receive_of_some hpeer]
  | hangUp id =>
    right; right
    cases hpeer : r.peers.find? id with
    | none => rw [act, hangUp_of_none hpeer]
    | some peer => rw [act, hangUp_of_some hpeer]
  | push n p =>
    right; right
    rw [act_push]
  | newService name length =>
    right; right
    rw [act]
    split
    · rfl
    · rfl
  | register n => exact .inr (.inr rfl)
  | addPacket name => exact .inr (.inr rfl)

/-! ## Services in runs -/

/-- What an action does to the services is done in steps. -/
theorem steps_act (ha : r.Pushes P a) : Directory.Steps P r.directory (r.act a).directory := by
  cases a with
  | accept =>
    cases r.accept_cases with
    | inl hsame =>
      rw [act, hsame.1]
    | inr hnew =>
      obtain ⟨peer, -, hdirectory, -⟩ := hnew
      rw [act, hdirectory]
      exact .single (.opened r.directory)
  | receive id text =>
    simp only [act, receive]
    split
    · exact .refl
    · exact Directory.steps_receive _ _ _
  | hangUp id =>
    simp only [act, hangUp]
    split
    · exact .refl
    · exact .single (.hungUp _ _)
  | finish id =>
    simp only [act, finish]
    split
    · exact .refl
    · exact (Directory.steps_unsubscribeAll _ id).tail (.hungUp _ _)
  | push n p =>
    obtain ⟨hp, hname⟩ := ha n p rfl
    rw [act_push]
    exact .single (.pushed _ hp fun s hs => hname s.name (Directory.nameOf?_of_services hs))
  | newService name length =>
    simp only [act]
    split
    · exact .refl
    · next s hs =>
      obtain ⟨hroom, rfl⟩ := PushService.ofName_eq_ok_iff.mp hs
      exact .single (.entered _ rfl)
  | register n => exact .single (.registered _ n)
  | addPacket name => exact .refl

theorem steps_registerNew (d : Directory) (s : PushService) (hs : s.history = []) :
    Directory.Steps P d (d.registerNew s).2 :=
  .tail (.single (.entered d hs)) (.registered _ _)

/-- A new router has remembered nothing yet. -/
theorem sound_start (config : RouterConfig) : (start config).directory.Sound P := by
  have hown : Directory.Steps P {} ownServices := by
    rw [ownServices]
    exact (steps_registerNew _ _ rfl).trans (steps_registerNew _ _ rfl)
  rw [start]
  exact (Directory.sound_steps hown Directory.sound_empty).2

/-- In every run the services keep their names, the index finds them by
these, and they remember what they pushed. -/
theorem sound_after {acts : List Action} (hr : r.directory.Sound P)
    (hpushes : ∀ x ∈ r.history acts, x.1.Pushes P x.2) :
    r.directory.Keeps (r.after acts).directory ∧ (r.after acts).directory.Sound P := by
  induction acts generalizing r with
  | nil => exact ⟨.refl _, hr⟩
  | cons a acts ih =>
    have ha : r.Pushes P a := hpushes (r, a) List.mem_cons_self
    obtain ⟨hkeeps, hsound⟩ := Directory.sound_steps (steps_act ha) hr
    obtain ⟨hrest, hend⟩ := ih hsound fun x hx => hpushes x (List.mem_cons_of_mem _ hx)
    exact ⟨hkeeps.trans hrest, hend⟩

/-- So it is at every action of the run. -/
theorem sound_of_mem_history {acts : List Action} {x : Router × Action}
    (hr : r.directory.Sound P) (hpushes : ∀ x ∈ r.history acts, x.1.Pushes P x.2)
    (hx : x ∈ r.history acts) : r.directory.Keeps x.1.directory ∧ x.1.directory.Sound P := by
  obtain ⟨before, more, rfl, hrouter⟩ := exists_of_mem_history hx
  rw [hrouter]
  apply sound_after hr
  intro y hy
  apply hpushes y
  rw [history_append]
  exact List.mem_append_left _ hy

/-! ## Peers in runs -/

/-- Every peer knows its number, and the packet that subscribes does so. -/
def Controlled (r : Router) : Prop :=
  ∀ id peer, r.peers.find? id = some peer →
    peer.id = id ∧ peer.dispatcher.callbacks.find? subscribeName = some (.run .subscribe)

theorem controlled_ofProtocol {p : Protocol} {id queue : Nat} {peer : Peer}
    (h : Peer.ofProtocol p id queue = .ok peer) :
    peer.id = id ∧ peer.dispatcher.callbacks.find? subscribeName = some (.run .subscribe) := by
  obtain ⟨hid, -, hready⟩ := Peer.ofProtocol_eq_ok h
  exact ⟨hid, (hready subscribeName .subscribe).mpr rfl⟩

theorem controlled_act (hr : r.Controlled) (a : Action) : (r.act a).Controlled := by
  intro id peer hpeer
  obtain rfl | ⟨id', rfl⟩ | hother := r.act_cases a
  · cases r.accept_cases with
    | inl hsame =>
      rw [act, hsame.2] at hpeer
      exact hr id peer hpeer
    | inr hnew =>
      obtain ⟨peer', hpeer', -, hpeers⟩ := hnew
      rw [act, hpeers, Table.find?_insert] at hpeer
      split at hpeer
      · next hid =>
        cases hpeer
        rw [hid]
        exact controlled_ofProtocol hpeer'
      · exact hr id peer hpeer
  · rw [act, find?_peers_finish] at hpeer
    split at hpeer
    · contradiction
    · exact hr id peer hpeer
  · rw [hother] at hpeer
    exact hr id peer hpeer

/-- In every run the connections know their numbers, and subscribe by the
packet that does so. -/
theorem controlled_after (hr : r.Controlled) (acts : List Action) : (r.after acts).Controlled := by
  induction acts generalizing r with
  | nil => exact hr
  | cons a acts ih => exact ih (controlled_act hr a)

theorem controlled_of_mem_history {acts : List Action} {x : Router × Action} (hr : r.Controlled)
    (hx : x ∈ r.history acts) : x.1.Controlled := by
  obtain ⟨before, more, -, hrouter⟩ := exists_of_mem_history hx
  rw [hrouter]
  exact controlled_after hr before

/-- A new router has no peers. -/
theorem controlled_start (config : RouterConfig) : (start config).Controlled := by
  intro id peer hpeer
  contradiction

end Router

end PushRelay
