import PushRelay.Proofs.Router.Run
import PushRelay.Proofs.Router.Subscriptions

/-!
# PushRelay.Proofs.Router.Serving

The frames that a service puts on the queue of a connection.

1. A service serves a connection when it pushes, and when a frame of the
   connection subscribes it, which replays the history (`Router.Serves`).
2. What it puts on the queue then are frames of packets that it pushed
   (`pushed_of_added`).
3. The subscribe packet of a client subscribes to no other service than the
   one whose name has the same lower case (`lowercase_of_subscribed`).
-/

namespace PushRelay

namespace Directory

variable {d : Directory} {n m id q : Nat} {s s' : PushService}

/-- Only subscribing to a service subscribes to it, and then the history is
put on the queue. -/
theorem of_subscribeTo (hbefore : d.isSubscribed n id = false)
    (hafter : (d.subscribeTo m id q).2.isSubscribed n id = true) :
    m = n ∧ ∃ s, d.services[n]? = some s ∧
      (d.subscribeTo m id q).2.queues.framesOf q = d.queues.framesOf q ++ s.history := by
  cases hs : d.services[m]? with
  | none =>
    simp only [subscribeTo, hs] at hafter
    rw [hbefore] at hafter
    contradiction
  | some s =>
    rw [subscribeTo_of_some hs] at hafter ⊢
    by_cases hm : m = n
    · subst hm
      rw [isSubscribed_replace_self hs] at hafter
      rw [isSubscribed, hs, Option.any_some] at hbefore
      have hnew : (s.subscribe id q d.queues).1 = true := by
        cases s.subscribe_cases id q d.queues with
        | inl hsame =>
          rw [hsame, hbefore] at hafter
          contradiction
        | inr hdone => rw [hdone.2.2]
      refine ⟨rfl, s, hs, ?_⟩
      rw [replace, PushService.framesOf_subscribe, if_pos ⟨rfl, hnew⟩]
    · rw [isSubscribed_replace_of_ne hm, hbefore] at hafter
      contradiction

theorem isSubscribed_unsubscribeFrom
    (h : (d.unsubscribeFrom m id).2.isSubscribed n id = true) : d.isSubscribed n id = true := by
  rw [isSubscribed_eq_isSome, subscription?_unsubscribeFrom] at h
  rw [isSubscribed_eq_isSome]
  split at h
  · contradiction
  · exact h

end Directory

namespace Router

variable {P : Nat → Packet Json → Prop} {r : Router} {a : Action} {n id : Nat} {peer : Peer}

/-- The action has service `n` put frames on the queue of a connection: a
push, or a frame of the connection that subscribes it. -/
def Serves (r : Router) (n id : Nat) (a : Action) : Prop :=
  (∃ p, a = .push n p) ∨ ∃ text, a = .receive id text ∧
    r.directory.isSubscribed n id = false ∧ (r.act a).directory.isSubscribed n id = true

/-- The frames that an action adds to a queue. -/
def added (r : Router) (a : Action) (q : Nat) : List String :=
  ((r.act a).directory.queues.framesOf q).drop (r.directory.queues.framesOf q).length

theorem added_of_append {q : Nat} {frames : List String}
    (h : (r.act a).directory.queues.framesOf q = r.directory.queues.framesOf q ++ frames) :
    r.added a q = frames := by
  rw [added, h, List.drop_left]

theorem directory_receive (hpeer : r.peers.find? id = some peer) (text : String) :
    (r.act (.receive id text)).directory = r.directory.receive peer text := by
  rw [act, receive_of_some hpeer]

/-- A frame that subscribes is one of a connection that has not ended. -/
theorem peer_of_subscribed {text : String} (hbefore : r.directory.isSubscribed n id = false)
    (hafter : (r.act (.receive id text)).directory.isSubscribed n id = true) :
    ∃ peer, r.peers.find? id = some peer := by
  cases hpeer : r.peers.find? id with
  | none =>
    rw [act, receive_of_none hpeer, hbefore] at hafter
    contradiction
  | some peer => exact ⟨peer, rfl⟩

/-- A frame that subscribes replays the history. -/
theorem added_of_subscribed (hr : r.Controlled) (hpeer : r.peers.find? id = some peer)
    {text : String} (hbefore : r.directory.isSubscribed n id = false)
    (hafter : (r.act (.receive id text)).directory.isSubscribed n id = true) :
    ∃ s, r.directory.services[n]? = some s ∧
      r.added (.receive id text) peer.queue = s.history := by
  have hid : peer.id = id := (hr id peer hpeer).1
  rw [directory_receive hpeer] at hafter
  obtain hsame | ⟨m, hsubscribe⟩ | ⟨m, hunsubscribe⟩ := r.directory.receive_cases peer text
  · rw [hsame, hbefore] at hafter
    contradiction
  · rw [hsubscribe, hid] at hafter
    obtain ⟨-, s, hs, hframes⟩ := Directory.of_subscribeTo hbefore hafter
    refine ⟨s, hs, added_of_append ?_⟩
    rw [directory_receive hpeer, hsubscribe, hid, hframes]
  · rw [hunsubscribe, hid] at hafter
    rw [Directory.isSubscribed_unsubscribeFrom hafter] at hbefore
    contradiction

/-- A push puts nothing but its own frame on a queue. -/
theorem encode_of_added {p : Packet Json} {q : Nat} {frame : String}
    (hframe : frame ∈ r.added (.push n p) q) : p.encode = .ok frame := by
  have hqueues : (r.act (.push n p)).directory = (r.directory.push n p).2 := by rw [act_push]
  cases hs : r.directory.services[n]? with
  | none =>
    have hsame : r.added (.push n p) q = [] := by
      apply added_of_append
      rw [hqueues, Directory.push, hs, List.append_nil]
    rw [hsame] at hframe
    exact absurd hframe List.not_mem_nil
  | some s =>
    rw [Directory.push_of_some hs] at hqueues
    cases hp : p.encode with
    | error e =>
      have hsame : r.added (.push n p) q = [] := by
        apply added_of_append
        rw [hqueues, PushService.push_of_error hp, Directory.replace, List.append_nil]
      rw [hsame] at hframe
      exact absurd hframe List.not_mem_nil
    | ok f =>
      have hadded := added_of_append (r := r) (a := .push n p) (q := q) (by
        rw [hqueues, PushService.push_of_ok hp, Directory.replace]
        exact s.framesOf_pushFrame f r.directory.queues q)
      rw [hadded] at hframe
      split at hframe
      · rw [List.eq_of_mem_replicate hframe]
      · exact absurd hframe List.not_mem_nil

/-- What a service puts on the queue of a connection are frames of packets
that it pushed, then or earlier. -/
theorem pushed_of_added (hsound : r.directory.Sound P) (hr : r.Controlled) (ha : r.Pushes P a)
    (hserves : r.Serves n id a) (hpeer : r.peers.find? id = some peer) {name frame : String}
    (hname : r.directory.nameOf? n = some name) (hframe : frame ∈ r.added a peer.queue) :
    Directory.Pushed P n name frame := by
  obtain ⟨p, rfl⟩ | ⟨text, rfl, hbefore, hafter⟩ := hserves
  · obtain ⟨hp, hnamed⟩ := ha n p rfl
    exact ⟨p, hp, hnamed name hname, encode_of_added hframe⟩
  · obtain ⟨s, hs, hadded⟩ := added_of_subscribed hr hpeer hbefore hafter
    rw [Directory.nameOf?_of_services hs] at hname
    rw [hadded] at hframe
    rw [← Option.some.inj hname]
    exact hsound.history n s hs frame hframe

/-- So it is at every action of a run, with the name that the service had at
its start. -/
theorem pushed_of_mem_history {acts : List Action} {x : Router × Action}
    (hsound : r.directory.Sound P) (hr : r.Controlled)
    (hpushes : ∀ x ∈ r.history acts, x.1.Pushes P x.2) (hx : x ∈ r.history acts)
    (hserves : x.1.Serves n id x.2) (hpeer : x.1.peers.find? id = some peer)
    {name frame : String} (hname : r.directory.nameOf? n = some name)
    (hframe : frame ∈ x.1.added x.2 peer.queue) : Directory.Pushed P n name frame := by
  obtain ⟨hkeeps, hxsound⟩ := sound_of_mem_history hsound hpushes hx
  exact pushed_of_added hxsound (controlled_of_mem_history hr hx) (hpushes x hx) hserves hpeer
    (hkeeps n name hname) hframe

/-! ## The subscribe packet of a client -/

/-- The frame that a client sends to subscribe asks for the service of that
name. -/
theorem receive_subscribePacket {κ : Type} {s : Service κ} {frame : String}
    (hs : s.subscribeFactory.name = subscribeName) (hframe : s.subscribePacket.encode = .ok frame)
    (hcontrol : peer.dispatcher.callbacks.find? subscribeName = some (.run .subscribe))
    (d : Directory) : d.receive peer frame = (d.subscribe s.name peer.id peer.queue).2 := by
  have hdecode : Packet.decode frame = .ok s.subscribePacket :=
    s.decode_packet .subscribe hframe
  have hname : s.subscribePacket.name = subscribeName := hs
  have hcall : Directory.callOf peer frame =
      .ok ⟨.run .subscribe, servicePayload s.name, subscribeName⟩ := by
    simp only [Directory.callOf, hdecode, Dispatcher.resolvePacket, Dispatcher.callFor, hname,
      hcontrol]
    rfl
  simp only [Directory.receive, hcall, Directory.perform, Directory.control,
    serviceOf?_servicePayload]

/-- A client that subscribes is subscribed to no other service than the one
whose name has the same lower case. -/
theorem lowercase_of_subscribed {κ : Type} {s : Service κ} {frame name : String}
    (hsound : r.directory.Sound P) (hr : r.Controlled) (hpeer : r.peers.find? id = some peer)
    (hs : s.subscribeFactory.name = subscribeName) (hframe : s.subscribePacket.encode = .ok frame)
    (hname : r.directory.nameOf? n = some name)
    (hbefore : r.directory.isSubscribed n id = false)
    (hafter : (r.act (.receive id frame)).directory.isSubscribed n id = true) :
    Text.lowercase s.name = Text.lowercase name := by
  obtain ⟨hid, hcontrol⟩ := hr id peer hpeer
  rw [directory_receive hpeer, receive_subscribePacket hs hframe hcontrol, hid,
    Directory.subscribe] at hafter
  cases hnumber : r.directory.number? s.name with
  | none =>
    rw [hnumber, hbefore] at hafter
    exact absurd hafter Bool.false_ne_true
  | some m =>
    rw [hnumber] at hafter
    obtain ⟨rfl, -⟩ := Directory.of_subscribeTo hbefore hafter
    obtain ⟨name', hname', hkey⟩ := hsound.index _ m hnumber
    rw [hname] at hname'
    rw [Option.some.inj hname', hkey]

end Router

end PushRelay
