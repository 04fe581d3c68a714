import PushRelay.Proofs.Router.Control
import PushRelay.Proofs.Router.Subscriptions

/-!
# PushRelay.Proofs.Router.Agreement

A client and its router agree on what the client is subscribed to.

The client asks for services by names of its own, in any spelling.  The
frames of these calls come in at the router in their order, between other
frames of the connection and pushes of the services.  A registered service
then has the connection as a subscriber if the last call by a name with the
same lower case was to subscribe (`Session.lastCall`).

The lower case of a name is only ever compared, so it could be any function
of names.
-/

namespace PushRelay

variable {κ : Type}

namespace Directory

variable {d : Directory} {n id q : Nat} {key : String}

/-! ## What a call does to a subscription -/

/-- A control that is asked for is carried out for the service with that
key, and for no other. -/
theorem isSubscribed_obey (hd : d.Indexed) (hopen : d.queues.accepts q = true)
    (hn : d.index.find? key = some n) (control : Control) (service : String) :
    (d.obey id q (some (control, service))).isSubscribed n id =
      if Text.lowercase service = key then decide (control = .subscribe)
      else d.isSubscribed n id := by
  by_cases hkey : Text.lowercase service = key
  · have hnumber : d.number? service = some n := by rw [number?, hkey, hn]
    obtain ⟨s, hs⟩ := hd.exists_service hn
    rw [if_pos hkey, obey_of_some hnumber, isSubscribed_controlAt hs hopen]
  · rw [if_neg hkey]
    cases hm : d.number? service with
    | none => rw [obey_of_none hm]
    | some m =>
      have hne : n ≠ m := by
        rintro rfl
        exact hkey (hd.key_unique hm hn)
      rw [obey_of_some hm, isSubscribed_eq_isSome, isSubscribed_eq_isSome,
        subscription?_controlAt_of_ne (.inl hne)]

end Directory

/-! ## Sessions -/

namespace Session

/-- What goes on between a router and one of its connections. -/
inductive Action (κ : Type) where
  /-- the client asks for a control of one of its services -/
  | call (control : Control) (s : Service κ)
  /-- another frame of the connection comes in -/
  | frame (text : String)
  | push (service : Nat) (p : Packet Json)

/-- The calls are those of services that were made, and fit a frame; the
other frames are no control packets. -/
def Action.Valid : Action κ → Prop
  | .call control s => s.Made ∧ (s.packet control).text.utf8ByteSize ≤ maxFrameSize
  | .frame text => ∀ p, Packet.decode text = .ok p →
      p.name ≠ subscribeName ∧ p.name ≠ unsubscribeName
  | .push _ _ => True

/-- Carries out an action.  A call comes in as its frame. -/
def act (peer : Peer) (d : Directory) : Action κ → Directory
  | .call control s =>
    match (s.packet control).encode with
    | .error _ => d
    | .ok frame => d.receive peer frame
  | .frame text => d.receive peer text
  | .push n p => (d.push n p).2

/-- The services and queues after a session. -/
def after (peer : Peer) (d : Directory) (acts : List (Action κ)) : Directory :=
  acts.foldl (act peer) d

theorem after_concat (peer : Peer) (d : Directory) (acts : List (Action κ)) (a : Action κ) :
    after peer d (acts ++ [a]) = act peer (after peer d acts) a := by
  simp only [after, List.foldl_append, List.foldl_cons, List.foldl_nil]

/-- What an action asks for the service with this key, its name in lower
case. -/
def Action.control? (key : String) : Action κ → Option Control
  | .call control s => if Text.lowercase s.name = key then some control else none
  | .frame _ | .push _ _ => none

/-- The last call of a session by a name with the same lower case. -/
def lastCall (name : String) (acts : List (Action κ)) : Option Control :=
  (acts.filterMap (Action.control? (Text.lowercase name))).getLast?

/-- The last call for a name is that of the last action, if that makes one. -/
theorem lastCall_concat (name : String) (acts : List (Action κ)) (a : Action κ) :
    lastCall name (acts ++ [a]) =
      (a.control? (Text.lowercase name)).or (lastCall name acts) := by
  simp only [lastCall, List.filterMap_append, List.filterMap_cons, List.filterMap_nil]
  cases a.control? (Text.lowercase name) with
  | none => simp only [List.append_nil, Option.none_or]
  | some control => simp only [List.getLast?_concat, Option.some_or]

variable {peer : Peer} {d₀ d : Directory} {a : Action κ}

/-- A call does what it asks for. -/
theorem act_call (hpeer : peer.Ready) {control : Control} {s : Service κ}
    (ha : (Action.call control s).Valid) (d : Directory) :
    act peer d (.call control s) = d.obey peer.id peer.queue (some (control, s.name)) := by
  obtain ⟨hmade, hsize⟩ := ha
  have hencode : (s.packet control).encode = .ok (s.packet control).text :=
    Packet.encode_eq_ok_iff.mpr ⟨rfl, hsize⟩
  simp only [act, hencode, d.receive_of_ready hpeer,
    Control.ofFrame?_packet (hmade.names.2 control) hencode]

/-- A frame that is no control packet does nothing. -/
theorem act_frame (hpeer : peer.Ready) {text : String}
    (ha : (Action.frame text : Action κ).Valid) (d : Directory) :
    act peer d (.frame text : Action κ) = d := by
  have hnone : Control.ofFrame? text = none :=
    Control.ofFrame?_eq_none_iff.mpr fun p hp => .inl (ha p hp)
  rw [act, d.receive_of_ready hpeer, hnone, Directory.obey]

/-- In the course of a session the index stays as it is, the queue stays
open, and every subscription of the connection is by that queue. -/
structure Sound (peer : Peer) (d₀ d : Directory) : Prop where
  index : d.index = d₀.index
  indexed : d.Indexed
  isOpen : d.queues.accepts peer.queue = true
  own : ∀ n q, d.subscription? n peer.id = some q → q = peer.queue

theorem Sound.obey (h : Sound peer d₀ d) (request : Option (Control × String)) :
    Sound peer d₀ (d.obey peer.id peer.queue request) where
  index := (Directory.obey_eq_of _ (fun n control => d.index_controlAt ..) request).trans h.index
  indexed := by
    apply Directory.Indexed.of_keeps h.indexed
    · exact Directory.obey_eq_of Directory.index (fun n control => d.index_controlAt ..) request
    · exact Directory.keeps_obey d peer.id peer.queue request
  isOpen := by
    have hsame := Directory.obey_eq_of (fun d => d.queues.accepts peer.queue)
      (fun n control => d.accepts_controlAt n peer.id peer.queue control peer.queue) request
    exact hsame.trans h.isOpen
  own n q hq := by
    cases Directory.subscription?_of_obey hq with
    | inl hold => exact h.own n q hold
    | inr hnew => exact hnew.2.1

theorem Sound.push (h : Sound peer d₀ d) (n : Nat) (p : Packet Json) :
    Sound peer d₀ (d.push n p).2 where
  index := (d.index_push n p).trans h.index
  indexed := Directory.Indexed.of_keeps h.indexed (d.index_push n p) (d.keeps_push n p)
  isOpen := (d.accepts_push n p peer.queue).trans h.isOpen
  own m q hq := h.own m q (Directory.subscription?_of_push hq)

/-- An action keeps the index, and the subscriptions of the connection on its
own open queue. -/
theorem Sound.act (h : Sound peer d₀ d) (hpeer : peer.Ready) (ha : a.Valid) :
    Sound peer d₀ (act peer d a) := by
  cases a with
  | call control s =>
    rw [act_call hpeer ha]
    exact h.obey _
  | frame text =>
    rw [act_frame hpeer ha]
    exact h
  | push n p => exact h.push n p

/-- What an action asks for is what the router does; all else leaves a
subscription as it is. -/
theorem Sound.isSubscribed_act (h : Sound peer d₀ d) (hpeer : peer.Ready) (ha : a.Valid)
    {key : String} {n : Nat} (hn : d₀.index.find? key = some n) :
    (Session.act peer d a).isSubscribed n peer.id =
      match a.control? key with
      | some control => decide (control = .subscribe)
      | none => d.isSubscribed n peer.id := by
  cases a with
  | call control s =>
    rw [← h.index] at hn
    rw [act_call hpeer ha, Directory.isSubscribed_obey h.indexed h.isOpen hn, Action.control?]
    split
    · rfl
    · rfl
  | frame text => rw [act_frame hpeer ha, Action.control?]
  | push m p =>
    apply Directory.isSubscribed_push
    intro q hq
    rw [h.own n q hq]
    exact h.isOpen

/-- So does a run. -/
theorem Sound.after (h : Sound peer d₀ d₀) (hpeer : peer.Ready) {acts : List (Action κ)}
    (hacts : ∀ a ∈ acts, a.Valid) : Sound peer d₀ (after peer d₀ acts) := by
  induction acts using List.reverseRecOn with
  | nil => exact h
  | append_singleton acts a ih =>
    have hbefore := ih fun b hb => hacts b (List.mem_append_left _ hb)
    rw [after_concat]
    exact hbefore.act hpeer (hacts a (List.mem_append_right _ List.mem_cons_self))

/-- For every service that was registered beforehand, by any spelling of its
name, the last call decides. -/
theorem Sound.isSubscribed_after (h : Sound peer d₀ d₀) (hpeer : peer.Ready)
    (hnew : ∀ n, d₀.subscription? n peer.id = none) {acts : List (Action κ)}
    (hacts : ∀ a ∈ acts, a.Valid) {name : String} {n : Nat} (hn : d₀.number? name = some n) :
    (Session.after peer d₀ acts).isSubscribed n peer.id = true ↔
      lastCall name acts = some .subscribe := by
  induction acts using List.reverseRecOn with
  | nil =>
    have hnone : d₀.isSubscribed n peer.id = false := by
      rw [Directory.isSubscribed_eq_isSome, hnew]
      rfl
    simp [Session.after, lastCall, hnone]
  | append_singleton acts a ih =>
    have hbefore : ∀ b ∈ acts, b.Valid := fun b hb => hacts b (List.mem_append_left _ hb)
    have ha : a.Valid := hacts a (List.mem_append_right _ List.mem_cons_self)
    have hstep := (h.after hpeer hbefore).isSubscribed_act hpeer ha hn
    rw [after_concat, hstep, lastCall_concat]
    cases a.control? (Text.lowercase name) with
    | none => exact ih hbefore
    | some control => simp

/-- The control packets of a client and what a router makes of them agree:
after any session, between pushes of the services and other frames, the
connection is subscribed to a registered service if the last call by a
spelling of its name was to subscribe, and only then.  A call by a name that
no service is registered by changes nothing. -/
theorem subscribed_iff_lastCall (services : List PushService) (queues : Queues) (p : Protocol)
    {id q : Nat} (hpeer : Peer.ofProtocol p id q = .ok peer)
    (hnew : ∀ s ∈ services, s.isSubscribed id = false) (hopen : queues.accepts q = true)
    (acts : List (Action κ)) (hacts : ∀ a ∈ acts, a.Valid) :
    let d₀ := Directory.ofServices services queues
    (∀ name n, d₀.number? name = some n →
      ((after peer d₀ acts).isSubscribed n id = true ↔ lastCall name acts = some .subscribe)) ∧
    ∀ control (s : Service κ), d₀.number? s.name = none → (Action.call control s).Valid →
      act peer (after peer d₀ acts) (.call control s) = after peer d₀ acts := by
  intro d₀
  obtain ⟨rfl, rfl, hready⟩ := Peer.ofProtocol_eq_ok hpeer
  have hsubscription : ∀ n, d₀.subscription? n peer.id = none :=
    Directory.subscription?_ofServices hnew
  obtain ⟨hindexed, -, hqueues⟩ := Directory.ofServices_eq services queues
  have hstart : Sound peer d₀ d₀ := by
    refine ⟨rfl, hindexed, ?_, fun n q hq => ?_⟩
    · rw [hqueues, hopen]
    · rw [hsubscription n] at hq
      contradiction
  constructor
  · intro name n hn
    exact hstart.isSubscribed_after hready hsubscription hacts hn
  · intro control s hs ha
    have hnone : (after peer d₀ acts).number? s.name = none := by
      rw [Directory.number?, (hstart.after hready hacts).index]
      exact hs
    rw [act_call hready ha, Directory.obey_of_none hnone]

/-- One service is subscribed to by another spelling, one is left again, and
one is not there. -/
theorem subscribed_iff_lastCall_clock :
    let services : List PushService := [{ name := "Clock", historyLength := 2 }, { name := "mail" }]
    let s (name : String) : Service Unit :=
      ⟨name, ⟨subscribeName, by decide⟩, ⟨unsubscribeName, by decide⟩, ∅⟩
    let acts : List (Action Unit) := [.push 0 ⟨"Clock", .null, by decide⟩,
      .call .subscribe (s "CLOCK"), .frame "\x7b\"name\":\"chat\"\x7d",
      .call .subscribe (s "Mail"), .call .unsubscribe (s "mail"), .call .subscribe (s "news")]
    let d₀ := Directory.ofServices services [{}]
    ∃ peer, Peer.ofProtocol Protocol.net 7 0 = .ok peer ∧ (∀ a ∈ acts, a.Valid) ∧
      (after peer d₀ acts).isSubscribed 0 7 = true ∧ (after peer d₀ acts).isSubscribed 1 7 = false ∧
      act peer (after peer d₀ acts) (.call .subscribe (s "news")) = after peer d₀ acts := by
  intro services s acts d₀
  obtain ⟨peer, hpeer⟩ := Peer.exists_ofProtocol Protocol.net 7 0
  have hchat : Packet.decode "\x7b\"name\":\"chat\"\x7d" = .ok ⟨"chat", .null, by decide⟩ := by
    decide +kernel
  have hcall : ∀ control, ∀ name ∈ ["CLOCK", "Mail", "mail", "news"],
      (Action.call control (s name)).Valid := by
    intro control name hname
    simp only [List.mem_cons, List.not_mem_nil, or_false] at hname
    refine ⟨⟨Protocol.net, [], Protocol.sound_net, ?_⟩, ?_⟩
    · obtain rfl | rfl | rfl | rfl := hname <;> rfl
    · cases control <;> obtain rfl | rfl | rfl | rfl := hname <;> decide +kernel
  have hacts : ∀ a ∈ acts, a.Valid := by
    intro a ha
    simp only [acts, List.mem_cons, List.not_mem_nil, or_false] at ha
    obtain rfl | rfl | rfl | rfl | rfl | rfl := ha
    · trivial
    · exact hcall _ _ (by decide)
    · intro p hp
      rw [hchat] at hp
      cases hp
      decide
    · exact hcall _ _ (by decide)
    · exact hcall _ _ (by decide)
    · exact hcall _ _ (by decide)
  obtain ⟨hlast, hother⟩ := subscribed_iff_lastCall services [{}] Protocol.net hpeer (by decide)
    (by decide) acts hacts
  refine ⟨peer, hpeer, hacts, ?_, ?_, ?_⟩
  · rw [hlast "clock" 0 (by decide +kernel)]
    decide +kernel
  · rw [Bool.eq_false_iff, ne_eq, hlast "mail" 1 (by decide +kernel)]
    decide +kernel
  · exact hother .subscribe (s "news") (by decide +kernel) (hcall _ _ (by decide))

end Session

end PushRelay
