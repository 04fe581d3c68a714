import PushRelay.Proofs.Router.Connections
import PushRelay.Proofs.Router.Sight

/-!
# PushRelay.Proofs.Router.Isolation

Connections of a router do not interfere.

1. What other connections do changes nothing in what a connection sees of
   the router, and what it does itself, what services push and what becomes
   of them changes that as if the connection were alone
   (`Router.Consistent.view_act`).
2. So two runs in which a connection meets the same actions look the same
   to it, whatever else happens in them.
3. A text of a connection changes nothing but one subscription of its own,
   and its own queue (`Router.Confined`).
-/

namespace PushRelay

namespace Router

variable {r : Router} {id q : Nat} {peer : Peer}

/-! ## What a connection sees of a router -/

/-- Whether a connection is there, and the services and queues as it sees
them. -/
structure View where
  live : Bool
  directory : Directory

/-- Whether an action is about the services, and so about all connections. -/
def Action.isShared : Action → Bool
  | .push _ _ | .newService _ _ | .register _ => true
  | .accept | .receive _ _ | .hangUp _ | .finish _ | .addPacket _ => false

/-- An action as a connection notices it: its own ones, under the number 0,
and those that are about the services. -/
def Action.noticedBy (id : Nat) (a : Action) : Option Action :=
  match a with
  | .receive id' text => if id' = id then some (.receive 0 text) else none
  | .hangUp id' => if id' = id then some (.hangUp 0) else none
  | .finish id' => if id' = id then some (.finish 0) else none
  | .push n p => some (.push n p)
  | .newService name length => some (.newService name length)
  | .register n => some (.register n)
  | .accept | .addPacket _ => none

/-- An action as if the connection were alone. -/
def View.act (v : View) : Action → View
  | .receive _ text =>
    if v.live then { v with directory := v.directory.obey 0 0 (Control.ofFrame? text) } else v
  | .hangUp _ => if v.live then { v with directory := v.directory.hangUp 0 } else v
  | .finish _ =>
    if v.live then { live := false, directory := (v.directory.unsubscribeAll 0).hangUp 0 } else v
  | .push n p => { v with directory := (v.directory.push n p).2 }
  | .newService name length =>
    match PushService.ofName name length with
    | .error _ => v
    | .ok s => { v with directory := (v.directory.newService s).2 }
  | .register n => { v with directory := (v.directory.register n).2 }
  | .accept | .addPacket _ => v

/-- Whoever is not there does nothing. -/
theorem View.act_of_not_live {v : View} (hv : v.live = false) {a : Action}
    (ha : a.isShared = false) : v.act a = v := by
  have hgone : ¬ v.live = true := by rw [hv]; exact Bool.false_ne_true
  cases a with
  | accept => rfl
  | receive id text => rw [View.act, if_neg hgone]
  | hangUp id => rw [View.act, if_neg hgone]
  | finish id => rw [View.act, if_neg hgone]
  | push n p => cases ha
  | newService name length => cases ha
  | register n => cases ha
  | addPacket name => rfl

/-- An action is about the services or not, by whatever number it is
noticed. -/
theorem Action.isShared_of_noticedBy {a b : Action} (h : a.noticedBy id = some b) :
    b.isShared = a.isShared := by
  unfold noticedBy at h
  split at h
  case h_1 | h_2 | h_3 =>
    split at h
    · cases h
      rfl
    · cases h
  all_goals cases h <;> rfl

/-- What a connection with its queue sees of a router. -/
def view (r : Router) (id q : Nat) : View := ⟨r.peers.contains id, r.directory.seenBy id q⟩

theorem view_withDirectory (r : Router) (d : Directory) (id q : Nat) :
    ({ r with directory := d } : Router).view id q =
      { r.view id q with directory := d.seenBy id q } := rfl

theorem live_view_of_none (h : r.peers.find? id = none) : (r.view id q).live = false := by
  rw [view, Table.contains, h, Option.isSome_none]

theorem live_view_of_some (h : r.peers.find? id = some peer) : (r.view id q).live = true := by
  rw [view, Table.contains, h, Option.isSome_some]

/-- A connection that is not there does nothing, and does not see another one
do something. -/
theorem elim_of_none {id' : Nat} (h : r.peers.find? id' = none) {b : Action}
    (hb : b.isShared = false) :
    (if id' = id then some b else none).elim (r.view id q) (r.view id q).act = r.view id q := by
  split
  · next hid =>
    subst hid
    exact View.act_of_not_live (live_view_of_none h) hb
  · rfl

namespace Consistent

variable (h : r.Consistent)

include h

/-- The queue of a connection is nobody else's. -/
theorem own (hq : q + 1 = id) (n id' q' : Nat) (hsub : r.directory.subscription? n id' = some q') :
    q' = q ↔ id' = id := by
  obtain ⟨peer, hpeer, rfl⟩ := h.owned n id' q' hsub
  have hnumber := (h.peer id' peer hpeer).2.1
  omega

theorem queue_lt (hpeer : r.peers.find? id = some peer) :
    peer.queue < r.directory.queues.length := by
  obtain ⟨-, hnumber, hpast, -⟩ := h.peer id peer hpeer
  have hnext := h.numbered
  omega

theorem queue_lt_of_subscribed (hq : q + 1 = id) {n : Nat}
    (hsub : r.directory.isSubscribed n id = true) : q < r.directory.queues.length := by
  rw [Directory.isSubscribed_eq_isSome] at hsub
  obtain ⟨q', hsub⟩ := Option.isSome_iff_exists.mp hsub
  obtain ⟨peer, hpeer, rfl⟩ := h.owned n id q' hsub
  have hlt := h.queue_lt hpeer
  rw [(h.own hq n id _ hsub).mpr rfl] at hlt
  exact hlt

theorem view_accept (hold : r.accept.1 ≠ some id) (q : Nat) :
    r.accept.2.view id q = r.view id q := by
  cases hid : r.accept.1 with
  | none => rw [h.accept_of_none hid]
  | some id' =>
    obtain ⟨rfl, peer, -, haccept⟩ := h.of_accept hid
    rw [hid, ne_eq, Option.some.injEq] at hold
    rw [haccept, view, Directory.seenBy_newQueue, Table.contains_insert,
      decide_eq_false (Ne.symm hold), Bool.false_or, view]

/-- A text changes what a connection sees only as far as the connection
notices it. -/
theorem view_receive (hq : q + 1 = id) (id' : Nat) (text : String) :
    (r.receive id' text).view id q =
      ((Action.receive id' text).noticedBy id).elim (r.view id q) (r.view id q).act := by
  rw [Action.noticedBy]
  cases hpeer : r.peers.find? id' with
  | none =>
    rw [receive_of_none hpeer, elim_of_none hpeer rfl]
  | some peer =>
    obtain ⟨hpid, hnumber, -, hready⟩ := h.peer id' peer hpeer
    rw [receive_of_some hpeer, Directory.receive_of_ready hready, hpid, view_withDirectory]
    split
    · next hid =>
      subst hid
      have hqueue : peer.queue = q := by omega
      have hlt := h.queue_lt hpeer
      rw [hqueue] at hlt ⊢
      rw [Option.elim_some, View.act, if_pos (live_view_of_some hpeer),
        Directory.seenBy_obey hlt]
      rfl
    · next hid =>
      have hqueue : peer.queue ≠ q := by omega
      rw [Directory.obey_eq_of (fun d => d.seenBy id q) fun n control =>
        Directory.seenBy_controlAt_of_ne (Ne.symm hid) hqueue ..]
      rfl

/-- So it is when a queue is hung up. -/
theorem view_hangUp (hq : q + 1 = id) (id' : Nat) :
    (r.hangUp id').view id q =
      ((Action.hangUp id').noticedBy id).elim (r.view id q) (r.view id q).act := by
  rw [Action.noticedBy]
  cases hpeer : r.peers.find? id' with
  | none =>
    rw [hangUp_of_none hpeer, elim_of_none hpeer rfl]
  | some peer =>
    have hnumber := (h.peer id' peer hpeer).2.1
    rw [hangUp_of_some hpeer, view_withDirectory]
    split
    · next hid =>
      subst hid
      have hqueue : peer.queue = q := by omega
      have hlt := h.queue_lt hpeer
      rw [hqueue] at hlt ⊢
      rw [Option.elim_some, View.act, if_pos (live_view_of_some hpeer),
        Directory.seenBy_hangUp hlt]
      rfl
    · next hid =>
      have hqueue : peer.queue ≠ q := by omega
      rw [Directory.seenBy_hangUp_of_ne hqueue]
      rfl

/-- So it is when a connection ends. -/
theorem view_finish (hq : q + 1 = id) (id' : Nat) :
    (r.finish id').view id q =
      ((Action.finish id').noticedBy id).elim (r.view id q) (r.view id q).act := by
  have hlive := r.find?_peers_finish id' id
  rw [Action.noticedBy]
  cases hpeer : r.peers.find? id' with
  | none =>
    rw [finish_of_none hpeer, elim_of_none hpeer rfl]
  | some peer =>
    have hnumber := (h.peer id' peer hpeer).2.1
    rw [view, Table.contains, hlive, finish_of_some hpeer]
    by_cases hid : id' = id
    · subst hid
      have hqueue : peer.queue = q := by omega
      have hlt := h.queue_lt hpeer
      rw [← r.directory.queues_unsubscribeAll id', hqueue] at hlt
      rw [if_pos rfl, if_pos rfl, hqueue, Option.elim_some, View.act,
        if_pos (live_view_of_some hpeer), Directory.seenBy_hangUp hlt,
        Directory.seenBy_unsubscribeAll]
      rfl
    · have hqueue : peer.queue ≠ q := by omega
      rw [if_neg (Ne.symm hid), if_neg hid, Directory.seenBy_hangUp_of_ne hqueue,
        Directory.unsubscribeAll_eq_of (fun d => d.seenBy id q) fun d n =>
          Directory.seenBy_unsubscribeFrom_of_ne (Ne.symm hid) d n q]
      rfl

/-- What other connections do changes nothing for a connection, and the rest
is as if it were alone. -/
theorem view_act (hq : q + 1 = id) (a : Action) (hold : a = .accept → r.accept.1 ≠ some id) :
    (r.act a).view id q = (a.noticedBy id).elim (r.view id q) (r.view id q).act := by
  cases a with
  | accept => exact h.view_accept (hold rfl) q
  | receive id' text => exact h.view_receive hq id' text
  | hangUp id' => exact h.view_hangUp hq id'
  | finish id' => exact h.view_finish hq id'
  | push n p =>
    rw [act_push, view_withDirectory,
      Directory.seenBy_push (h.own hq n) (h.queue_lt_of_subscribed hq)]
    rfl
  | newService name length =>
    rw [Router.act, Action.noticedBy, Option.elim_some, View.act]
    cases hs : PushService.ofName name length with
    | error e => rfl
    | ok s =>
      obtain ⟨-, rfl⟩ := PushService.ofName_eq_ok_iff.mp hs
      simp only [view_withDirectory]
      rw [Directory.seenBy_newService rfl]
      rfl
  | register n =>
    rw [Router.act, view_withDirectory, Directory.seenBy_register]
    rfl
  | addPacket name => rfl

/-- In a run in which it is not accepted, a connection sees what it would see
alone. -/
theorem view_after (hq : q + 1 = id) {acts : List Action}
    (hold : (r.after acts).nextId ≤ id ∨ id < r.nextId) :
    (r.after acts).view id q =
      (acts.filterMap (Action.noticedBy id)).foldl View.act (r.view id q) := by
  induction acts generalizing r with
  | nil => rfl
  | cons a acts ih =>
    have hact := h.act a
    have hmono := nextId_le_act h a
    have hrest := nextId_le_after hact acts
    have hone : a = .accept → r.accept.1 ≠ some id := by
      rintro rfl hid
      obtain ⟨rfl, peer, -, haccept⟩ := h.of_accept hid
      rw [after_cons] at hold
      rw [Router.act, haccept] at hrest hold
      have hnext : r.nextId + 1 ≤ _ := hrest
      omega
    have hlater : ((r.act a).after acts).nextId ≤ id ∨ id < (r.act a).nextId := by
      rw [after_cons] at hold
      omega
    rw [after_cons, ih hact hlater, h.view_act hq a hone, List.filterMap_cons]
    cases a.noticedBy id with
    | none => rfl
    | some b => rfl

/-- A connection that is accepted sees what was there, and now is there
itself. -/
theorem view_accepted (hid : r.accept.1 = some id) (q : Nat) :
    r.accept.2.view id q = { r.view id q with live := true } := by
  obtain ⟨rfl, peer, -, haccept⟩ := h.of_accept hid
  rw [haccept, view, Directory.seenBy_newQueue, Table.contains_insert, decide_eq_true rfl,
    Bool.true_or, view]

end Consistent

/-! ## Two runs -/

/-- What a connection meets in a run in which it is accepted between two
parts: what is done to the services before, and what it notices then. -/
def met (id : Nat) (before rest : List Action) : List Action :=
  before.filter Action.isShared ++ rest.filterMap (Action.noticedBy id)

/-- Before a connection is there, it notices nothing but what is done to the
services. -/
theorem View.act_of_not_shared {a : Action} (ha : a.isShared = false) (id : Nat) (d : Directory) :
    (a.noticedBy id).elim (⟨false, d⟩ : View) (View.act ⟨false, d⟩) = ⟨false, d⟩ := by
  cases hnoticed : a.noticedBy id with
  | none => rfl
  | some b => exact View.act_of_not_live rfl (by rw [Action.isShared_of_noticedBy hnoticed, ha])

/-- What is done to the services is noticed by all, whether they are there or
not. -/
theorem View.act_of_shared {a : Action} (ha : a.isShared = true) (id : Nat) (d : Directory) :
    a.noticedBy id = some a ∧ ∃ d', ∀ live, View.act ⟨live, d⟩ a = ⟨live, d'⟩ := by
  cases a with
  | accept => cases ha
  | receive id' text => cases ha
  | hangUp id' => cases ha
  | finish id' => cases ha
  | push n p => exact ⟨rfl, (d.push n p).2, fun live => rfl⟩
  | newService name length =>
    cases hs : PushService.ofName name length with
    | error e => exact ⟨rfl, d, fun live => by rw [View.act, hs]⟩
    | ok s => exact ⟨rfl, (d.newService s).2, fun live => by rw [View.act, hs]⟩
  | register n => exact ⟨rfl, (d.register n).2, fun live => rfl⟩
  | addPacket name => cases ha

/-- Before a connection is there, it matters only what is done to the
services. -/
theorem exists_foldl_idle (id : Nat) (acts : List Action) (d : Directory) : ∃ d',
    (acts.filterMap (Action.noticedBy id)).foldl View.act ⟨false, d⟩ = ⟨false, d'⟩ ∧
      (acts.filter Action.isShared).foldl View.act ⟨true, d⟩ = ⟨true, d'⟩ := by
  induction acts generalizing d with
  | nil => exact ⟨d, rfl, rfl⟩
  | cons a acts ih =>
    rw [List.filterMap_cons, List.filter_cons]
    cases hshared : a.isShared with
    | false =>
      obtain ⟨d', hidle, hrest⟩ := ih d
      have hone := View.act_of_not_shared hshared id d
      refine ⟨d', ?_, hrest⟩
      cases hnoticed : a.noticedBy id with
      | none => exact hidle
      | some b =>
        rw [hnoticed, Option.elim_some] at hone
        rw [List.foldl_cons, hone, hidle]
    | true =>
      obtain ⟨hnoticed, d', hact⟩ := View.act_of_shared hshared id d
      rw [hnoticed, if_pos rfl, List.foldl_cons, List.foldl_cons, hact, hact]
      exact ih d'

/-- The services of the router itself, and a queue without frames. -/
def fresh : Directory := { ownServices with queues := [{}] }

/-- At the start all connections see the same. -/
theorem view_start (config : RouterConfig) (id q : Nat) :
    (start config).view id q = ⟨false, fresh⟩ := by
  obtain ⟨hnew, hqueues⟩ := ownServices_new
  have hservices : ownServices.services.map (fun s => s.seenBy id) = ownServices.services := by
    rw [List.map_congr_left fun s hs => PushService.seenBy_of_new (hnew s hs) id, List.map_id']
  have hqueue : ownServices.queues.only q = [{}] := by rw [hqueues]; rfl
  rw [start, view, Directory.seenBy, hservices, hqueue, fresh]
  rfl

/-- What a connection sees depends on what it meets only. -/
theorem view_eq (config : RouterConfig) (hlimit : config.maxConnections < counterSize)
    {before : List Action} (hid : ((start config).after before).accept.1 = some id)
    (rest : List Action) :
    (((start config).after before).after (.accept :: rest)).view id
        ((start config).after before).directory.queues.length =
      (met id before rest).foldl View.act ⟨true, fresh⟩ := by
  have hstart := Consistent.start hlimit
  have hbefore := hstart.after before
  obtain ⟨hnext, peer, -, haccept⟩ := hbefore.of_accept hid
  have hq : ((start config).after before).directory.queues.length + 1 = id := by
    rw [hnext, hbefore.numbered]
  have hpast : id < (((start config).after before).act .accept).nextId := by
    rw [act, haccept, hnext]
    exact Nat.lt_succ_self _
  obtain ⟨d, hidle, hshared⟩ := exists_foldl_idle id before fresh
  rw [after_cons, (hbefore.act .accept).view_after hq (.inr hpast), act, hbefore.view_accepted hid,
    hstart.view_after hq (.inl (Nat.le_of_eq hnext.symm)), view_start, hidle, met,
    List.foldl_append, hshared]

/-- Two routers are the same for a connection of each, as far as it can
tell. -/
structure SameFor (r₁ r₂ : Router) (id₁ q₁ id₂ q₂ : Nat) : Prop where
  subscribed : ∀ n, r₁.directory.isSubscribed n id₁ = r₂.directory.isSubscribed n id₂
  /-- the frames that were ever put on the queue -/
  frames : r₁.directory.queues.framesOf q₁ = r₂.directory.queues.framesOf q₂
  index : r₁.directory.index = r₂.directory.index
  services : r₁.directory.unattended = r₂.directory.unattended

/-- What looks the same to two connections is the same for them. -/
theorem sameFor_of_view {r₁ r₂ : Router} {id₁ q₁ id₂ q₂ : Nat}
    (h : r₁.view id₁ q₁ = r₂.view id₂ q₂) : SameFor r₁ r₂ id₁ q₁ id₂ q₂ := by
  have hdirectory : r₁.directory.seenBy id₁ q₁ = r₂.directory.seenBy id₂ q₂ :=
    congrArg View.directory h
  constructor
  case subscribed =>
    intro n
    rw [← Directory.isSubscribed_seenBy, hdirectory, Directory.isSubscribed_seenBy]
  case frames =>
    have hqueues : r₁.directory.queues.only q₁ = r₂.directory.queues.only q₂ :=
      congrArg Directory.queues hdirectory
    rw [← Queues.framesOf_only, hqueues, Queues.framesOf_only]
  case index =>
    have hindex := congrArg Directory.index hdirectory
    exact hindex
  case services =>
    rw [← Directory.unattended_seenBy, hdirectory, Directory.unattended_seenBy]

/-! ## One text -/

end Router

namespace Directory

variable {d : Directory} {id q : Nat}

/-- What a connection gets for what it asks is the history of the service, if
it is subscribed by that. -/
theorem framesOf_obey (d : Directory) (id q : Nat) (request : Option (Control × String)) :
    (d.obey id q request).queues.framesOf q = d.queues.framesOf q ∨
      ∃ service n s, request = some (.subscribe, service) ∧ d.number? service = some n ∧
        d.services[n]? = some s ∧ d.isSubscribed n id = false ∧
        (d.obey id q request).isSubscribed n id = true ∧
        (d.obey id q request).queues.framesOf q = d.queues.framesOf q ++ s.history := by
  match request with
  | none => exact .inl rfl
  | some (control, service) =>
    cases hn : d.number? service with
    | none => exact .inl (by rw [obey_of_none hn])
    | some n =>
      rw [obey_of_some hn]
      cases control with
      | unsubscribe => exact .inl (by rw [controlAt, queues_unsubscribeFrom])
      | subscribe =>
        cases hs : d.services[n]? with
        | none => exact .inl (by simp only [controlAt, subscribeTo, hs])
        | some s =>
          have hframes := s.framesOf_subscribe id q d.queues q
          rw [controlAt, subscribeTo_of_some hs]
          cases hnew : (s.subscribe id q d.queues).1 with
          | false =>
            left
            rw [hnew, if_neg (by simp), List.append_nil] at hframes
            exact hframes
          | true =>
            right
            rw [hnew, if_pos ⟨rfl, rfl⟩] at hframes
            refine ⟨service, n, s, rfl, hn, hs, ?_, ?_, hframes⟩
            · rw [isSubscribed, hs, Option.any_some]
              exact (PushService.subscribe_fst_iff.mp hnew).1
            · rw [isSubscribed_replace_self hs, PushService.isSubscribed_iff]
              exact ⟨q, by rw [PushService.find?_subscribe, if_pos ⟨rfl, hnew⟩]⟩

end Directory

namespace Router

variable {r : Router} {id : Nat} {peer : Peer}

/-- What a text of a connection changes: at most one subscription, of the
connection itself to the service that the text names, and its own queue. -/
structure Confined (r : Router) (id : Nat) (peer : Peer) (text : String) : Prop where
  /-- only subscriptions and queues change -/
  rest : r.receive id text = { r with directory := (r.receive id text).directory }
  index : (r.receive id text).directory.index = r.directory.index
  services : (r.receive id text).directory.unattended = r.directory.unattended
  subscription : ∀ n id',
    (r.receive id text).directory.subscription? n id' ≠ r.directory.subscription? n id' →
      id' = id ∧ ∃ control service, Control.ofFrame? text = some (control, service) ∧
        r.directory.number? service = some n
  queues : ∀ q, q ≠ peer.queue →
    (r.receive id text).directory.queues[q]? = r.directory.queues[q]?
  isOpen : (r.receive id text).directory.queues.accepts peer.queue =
    r.directory.queues.accepts peer.queue
  /-- the history is replayed to a connection that is subscribed now -/
  replay : (r.receive id text).directory.queues.framesOf peer.queue =
      r.directory.queues.framesOf peer.queue ∨
    ∃ service n s, Control.ofFrame? text = some (.subscribe, service) ∧
      r.directory.number? service = some n ∧ r.directory.services[n]? = some s ∧
      r.directory.isSubscribed n id = false ∧
      (r.receive id text).directory.isSubscribed n id = true ∧
      (r.receive id text).directory.queues.framesOf peer.queue =
        r.directory.queues.framesOf peer.queue ++ s.history
  /-- a text that is no packet, another packet or without a service changes
  nothing -/
  ignored : (∀ p, Packet.decode text = .ok p →
      (p.name ≠ subscribeName ∧ p.name ≠ unsubscribeName) ∨ serviceOf? p.data = none) →
    r.receive id text = r

/-- What a text does is confined to the connection that it comes from. -/
theorem Consistent.confined (h : r.Consistent) (hpeer : r.peers.find? id = some peer)
    (text : String) : Confined r id peer text := by
  obtain ⟨hid, -, -, hready⟩ := h.peer id peer hpeer
  have hreceive : r.receive id text =
      { r with directory := r.directory.obey id peer.queue (Control.ofFrame? text) } := by
    rw [receive_of_some hpeer, Directory.receive_of_ready hready, hid]
  obtain ⟨-, -, hindex, hservices⟩ := h.receive_keeps id text
  constructor
  case rest => rw [hreceive]
  case index => exact hindex
  case services => exact hservices
  case subscription =>
    intro n id' hchanged
    rw [hreceive] at hchanged
    cases hrequest : Control.ofFrame? text with
    | none =>
      rw [hrequest] at hchanged
      exact absurd rfl hchanged
    | some request =>
      obtain ⟨control, service⟩ := request
      rw [hrequest] at hchanged
      cases hm : r.directory.number? service with
      | none =>
        rw [Directory.obey_of_none hm] at hchanged
        exact absurd rfl hchanged
      | some m =>
        rw [Directory.obey_of_some hm] at hchanged
        have hsame : ¬ (n ≠ m ∨ id' ≠ id) := fun hne =>
          hchanged (Directory.subscription?_controlAt_of_ne hne ..)
        rw [not_or, not_not, not_not] at hsame
        obtain ⟨rfl, rfl⟩ := hsame
        exact ⟨rfl, control, service, rfl, hm⟩
  case queues =>
    intro q hq
    rw [hreceive]
    exact Directory.obey_eq_of (fun d => d.queues[q]?)
      (fun n control => Directory.getElem?_queues_controlAt (Ne.symm hq) ..) _
  case isOpen =>
    rw [hreceive]
    exact Directory.obey_eq_of (fun d => d.queues.accepts peer.queue)
      (fun n control => r.directory.accepts_controlAt ..) _
  case replay =>
    rw [hreceive]
    exact r.directory.framesOf_obey id peer.queue _
  case ignored =>
    intro hnone
    rw [hreceive, Control.ofFrame?_eq_none_iff.mpr hnone]
    rfl

/-! ## Connections do not interfere -/

/-- Connections do not interfere.  In two runs, of routers with any limits,
in which a connection is accepted and meets the same, it is subscribed to the
same services and gets the same frames, whatever other connections do.  And
in every run a text of a connection only changes what is its own. -/
theorem isolated {config₁ config₂ : RouterConfig} (hlimit₁ : config₁.maxConnections < counterSize)
    (hlimit₂ : config₂.maxConnections < counterSize) :
    (∀ before₁ rest₁ before₂ rest₂ id₁ id₂,
      let r₁ := (start config₁).after before₁
      let r₂ := (start config₂).after before₂
      r₁.accept.1 = some id₁ → r₂.accept.1 = some id₂ →
      met id₁ before₁ rest₁ = met id₂ before₂ rest₂ →
      SameFor (r₁.after (.accept :: rest₁)) (r₂.after (.accept :: rest₂))
        id₁ r₁.directory.queues.length id₂ r₂.directory.queues.length) ∧
    ∀ acts id peer text, ((start config₁).after acts).peers.find? id = some peer →
      Confined ((start config₁).after acts) id peer text := by
  constructor
  · intro before₁ rest₁ before₂ rest₂ id₁ id₂ r₁ r₂ hid₁ hid₂ hmet
    apply sameFor_of_view
    rw [view_eq config₁ hlimit₁ hid₁, view_eq config₂ hlimit₂ hid₂, hmet]
  · intro acts id peer text hpeer
    exact ((Consistent.start hlimit₁).after acts).confined hpeer text

/-- A connection alone, and one that another came before, which subscribes to
the same service, loses its queue and ends. -/
theorem isolated_with_other :
    let clock := "\x7b\"name\":\"subscribe\",\"data\":\x7b\"service\":\"clock\"\x7d\x7d"
    let tick (data : Json) : Action := .push 0 ⟨"clock", data, by decide⟩
    let config₁ : RouterConfig := { maxConnections := 1 }
    let config₂ : RouterConfig := {}
    let r₁ := (start config₁).after []
    let r₂ := (start config₂).after [.accept, .receive 1 clock]
    let rest₁ : List Action := [.receive 1 clock, tick .null, tick (.bool true)]
    let rest₂ : List Action :=
      [.receive 1 "\x7b", .receive 2 clock, .hangUp 1, tick .null, .finish 1, .accept,
        tick (.bool true), .receive 3 clock]
    config₁.maxConnections < counterSize ∧ config₂.maxConnections < counterSize ∧
    r₁.accept.1 = some 1 ∧ r₂.accept.1 = some 2 ∧
    SameFor (r₁.after (.accept :: rest₁)) (r₂.after (.accept :: rest₂)) 1 0 2 1 ∧
    (r₁.after (.accept :: rest₁)).directory.queues.framesOf 0 =
      ["\x7b\"name\":\"clock\",\"data\":null\x7d", "\x7b\"name\":\"clock\",\"data\":true\x7d"] ∧
    ∃ peer, r₁.accept.2.peers.find? 1 = some peer ∧ Confined r₁.accept.2 1 peer clock := by
  intro clock tick config₁ config₂ r₁ r₂ rest₁ rest₂
  have hlimit₁ : config₁.maxConnections < counterSize := by decide
  have hlimit₂ : config₂.maxConnections < counterSize := by decide
  have hid₁ : r₁.accept.1 = some 1 := by decide +kernel
  have hid₂ : r₂.accept.1 = some 2 := by decide +kernel
  have hq₁ : r₁.directory.queues.length = 0 := by decide +kernel
  have hq₂ : r₂.directory.queues.length = 1 := by decide +kernel
  obtain ⟨hsame, hconfined⟩ := isolated hlimit₁ hlimit₂
  have hsame : SameFor (r₁.after (.accept :: rest₁)) (r₂.after (.accept :: rest₂))
      1 r₁.directory.queues.length 2 r₂.directory.queues.length :=
    hsame [] rest₁ [.accept, .receive 1 clock] rest₂ 1 2 hid₁ hid₂ rfl
  rw [hq₁, hq₂] at hsame
  obtain ⟨peer, hpeer⟩ : ∃ peer, r₁.accept.2.peers.find? 1 = some peer := ⟨_, rfl⟩
  exact ⟨hlimit₁, hlimit₂, hid₁, hid₂, hsame, by decide +kernel, peer, hpeer,
    hconfined [.accept] 1 peer clock hpeer⟩

end Router

end PushRelay
