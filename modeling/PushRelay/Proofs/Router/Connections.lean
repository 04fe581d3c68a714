import Mathlib.Data.List.Nodup
import PushRelay.Proofs.Router.Run
import PushRelay.Proofs.Router.Subscriptions

/-!
# PushRelay.Proofs.Router.Connections

The connections of a router, in any run.

1. The counter is the number of connections that were accepted and have not
   ended (`live`), and it never exceeds the limit.
2. Every subscriber is one of them and is subscribed with its own queue.
3. No text that a connection sends changes the protocol, the callbacks of a
   connection or what services there are.

Queues are only opened for connections, so connections and queues are
numbered in the same order: connection `id` has queue `id - 1`.  By this a
queue is nobody else's (`Consistent`).
-/

namespace PushRelay

namespace Router

variable {r : Router} {id q : Nat} {peer : Peer}

/-- The services of a new router have no subscribers, and there are no
queues. -/
theorem ownServices_new :
    (∀ s ∈ ownServices.services, s.subscribers = ∅) ∧ ownServices.queues = [] := by
  have hown : ownServices = Directory.ofServices [{ name := clockService },
      { name := connectionsService, historyLength := pushHistoryLength }] [] := rfl
  obtain ⟨-, hservices, hqueues⟩ := Directory.ofServices_eq [{ name := clockService },
    { name := connectionsService, historyLength := pushHistoryLength }] []
  rw [hown, hservices, hqueues]
  exact ⟨by simp, rfl⟩

/-! ## The invariant -/

/-- One less of a number that the counter holds. -/
theorem pred_counter {n : Nat} (h : n + 1 < counterSize) :
    (n + 1 + (counterSize - 1)) % counterSize = n := by
  unfold counterSize at *
  omega

/-- What holds of a router at any time. -/
structure Consistent (r : Router) : Prop where
  /-- connections and queues are numbered in the same order -/
  numbered : r.nextId = r.directory.queues.length + 1
  counted : r.online = r.peers.size
  size_le : r.peers.size ≤ r.maxConnections
  room : r.maxConnections < counterSize
  peer : ∀ id peer, r.peers.find? id = some peer →
    peer.id = id ∧ peer.queue + 1 = id ∧ id < r.nextId ∧ peer.Ready
  /-- every subscriber is a connection, with its own queue -/
  owned : ∀ n id q, r.directory.subscription? n id = some q →
    ∃ peer, r.peers.find? id = some peer ∧ peer.queue = q
  /-- only registered services are subscribed to -/
  registered : ∀ n id q, r.directory.subscription? n id = some q →
    ∃ key, r.directory.index.find? key = some n

namespace Consistent

/-- A new router is consistent, if its limit can be counted to. -/
theorem start {config : RouterConfig} (h : config.maxConnections < counterSize) :
    (start config).Consistent := by
  obtain ⟨hnew, hqueues⟩ := ownServices_new
  have hnone : ∀ n id, (Router.start config).directory.subscription? n id = none := by
    intro n id
    rw [Router.start, Directory.subscription?, Option.bind_eq_none_iff]
    intro s hs
    rw [hnew s (List.mem_of_getElem? hs), Table.find?_empty]
  constructor
  case numbered => rw [Router.start, hqueues, List.length_nil]
  case counted => rw [Router.start]; rfl
  case size_le => exact Nat.zero_le _
  case room => exact h
  case peer =>
    intro id peer hpeer
    rw [Router.start, Table.find?_empty] at hpeer
    cases hpeer
  case owned =>
    intro n id q hq
    rw [hnone] at hq
    cases hq
  case registered =>
    intro n id q hq
    rw [hnone] at hq
    cases hq

variable (h : r.Consistent)

include h

/-- The invariant allows all changes of the services that make no
subscriptions but those of connections to registered services. -/
theorem withDirectory {d : Directory} (hlength : d.queues.length = r.directory.queues.length)
    (hindex : ∀ key n, r.directory.index.find? key = some n → d.index.find? key = some n)
    (hsub : ∀ n id q, d.subscription? n id = some q →
      r.directory.subscription? n id = some q ∨
        ((∃ peer, r.peers.find? id = some peer ∧ peer.queue = q) ∧
          ∃ key, r.directory.index.find? key = some n)) :
    ({ r with directory := d } : Router).Consistent where
  numbered := by
    rw [hlength]
    exact h.numbered
  counted := h.counted
  size_le := h.size_le
  room := h.room
  peer := h.peer
  owned n id q hq := by
    cases hsub n id q hq with
    | inl hold => exact h.owned n id q hold
    | inr hnew => exact hnew.1
  registered n id q hq := by
    have hkey : ∃ key, r.directory.index.find? key = some n := by
      cases hsub n id q hq with
      | inl hold => exact h.registered n id q hold
      | inr hnew => exact hnew.2
    obtain ⟨key, hkey⟩ := hkey
    exact ⟨key, hindex key n hkey⟩

/-- The next number was not given to any connection that is there. -/
theorem find?_nextId : r.peers.find? r.nextId = none := by
  cases hpeer : r.peers.find? r.nextId with
  | none => rfl
  | some peer => exact absurd (h.peer _ peer hpeer).2.2.1 (Nat.lt_irrefl _)

/-- The next number comes behind those of all connections. -/
theorem entries_insert (peer : Peer) :
    (r.peers.insert r.nextId peer).entries = r.peers.entries ++ [(r.nextId, peer)] := by
  apply Table.entries_insert_of_lt
  intro id hid
  obtain ⟨peer, hpeer⟩ := Option.isSome_iff_exists.mp (Table.contains_iff_mem_keys.mpr hid)
  exact Nat.compare_eq_lt.mpr (h.peer id peer hpeer).2.2.1

/-- A router stays consistent when a connection is accepted or turned away. -/
theorem accept : r.accept.2.Consistent := by
  by_cases hfull : r.maxConnections ≤ r.online
  · rw [accept_of_le hfull]
    exact h
  have hlt : r.online < r.maxConnections := Nat.lt_of_not_le hfull
  obtain ⟨peer, hpeer, haccept⟩ := accept_of_lt hlt (by have := h.room; omega)
  have hsize : (r.peers.insert r.nextId peer).size = r.peers.size + 1 := by
    rw [Table.size, h.entries_insert, List.length_append, List.length_singleton, Table.size]
  have hlength : r.directory.newQueue.2.queues.length = r.directory.queues.length + 1 :=
    List.length_append
  rw [haccept]
  constructor
  case numbered => rw [hlength, h.numbered]
  case counted => rw [hsize, h.counted]
  case size_le =>
    rw [hsize, ← h.counted]
    exact hlt
  case room => exact h.room
  case peer =>
    intro id peer' hpeer'
    rw [Table.find?_insert] at hpeer'
    split at hpeer'
    · next hid =>
      cases hpeer'
      obtain ⟨hpid, hqueue, hready⟩ := Peer.ofProtocol_eq_ok hpeer
      refine ⟨hpid.trans hid.symm, ?_, ?_, hready⟩
      · rw [hqueue, hid, h.numbered]
      · rw [hid]
        exact Nat.lt_succ_self _
    · obtain ⟨hpid, hqueue, hfresh, hready⟩ := h.peer id peer' hpeer'
      exact ⟨hpid, hqueue, Nat.lt_succ_of_lt hfresh, hready⟩
  case owned =>
    intro n id q hq
    obtain ⟨peer', hpeer', hqueue⟩ := h.owned n id q hq
    have hold : id ≠ r.nextId := by
      rintro rfl
      rw [h.find?_nextId] at hpeer'
      contradiction
    refine ⟨peer', ?_, hqueue⟩
    rw [Table.find?_insert, if_neg hold, hpeer']
  case registered => exact h.registered

/-- It stays so when a connection ends. -/
theorem finish (hpeer : r.peers.find? id = some peer) : (r.finish id).Consistent := by
  have hsize := Table.size_erase hpeer
  -- who is subscribed still is another connection
  have hleft : ∀ n id' q,
      ((r.directory.unsubscribeAll id).hangUp peer.queue).subscription? n id' = some q →
        id' ≠ id ∧ r.directory.subscription? n id' = some q := by
    intro n id' q hleft
    have hq : (r.directory.unsubscribeAll id).subscription? n id' = some q := hleft
    rw [Directory.subscription?_unsubscribeAll] at hq
    split at hq
    · contradiction
    · next hkept =>
      refine ⟨fun hid => ?_, hq⟩
      exact hkept ⟨hid, Table.mem_values_iff.mpr (h.registered n id' q hq)⟩
  rw [finish_of_some hpeer]
  constructor
  case numbered =>
    rw [Directory.hangUp, Queues.length_hangUp, Directory.queues_unsubscribeAll, h.numbered]
  case counted =>
    -- there is one connection at least, so the counter does not go below zero
    rw [h.counted, ← hsize]
    exact pred_counter (by rw [hsize]; exact Nat.lt_of_le_of_lt h.size_le h.room)
  case size_le => exact Nat.le_of_succ_le (Nat.le_trans (Nat.le_of_eq hsize) h.size_le)
  case room => exact h.room
  case peer =>
    intro id' peer' hpeer'
    rw [Table.find?_erase] at hpeer'
    split at hpeer'
    · contradiction
    · exact h.peer id' peer' hpeer'
  case owned =>
    intro n id' q hq
    obtain ⟨hne, hq⟩ := hleft n id' q hq
    obtain ⟨peer', hpeer', hqueue⟩ := h.owned n id' q hq
    refine ⟨peer', ?_, hqueue⟩
    rw [Table.find?_erase, if_neg hne, hpeer']
  case registered =>
    intro n id' q hq
    obtain ⟨key, hkey⟩ := h.registered n id' q (hleft n id' q hq).2
    refine ⟨key, ?_⟩
    change (r.directory.unsubscribeAll id).index.find? key = some n
    rw [Directory.index_unsubscribeAll, hkey]

theorem act (a : Action) : (r.act a).Consistent := by
  cases a with
  | accept => exact h.accept
  | receive id text =>
    rw [Router.act]
    cases hpeer : r.peers.find? id with
    | none =>
      rw [receive_of_none hpeer]
      exact h
    | some peer =>
      obtain ⟨hid, -, -, hready⟩ := h.peer id peer hpeer
      rw [receive_of_some hpeer, Directory.receive_of_ready hready]
      apply h.withDirectory
      · exact Directory.obey_eq_of (fun d => d.queues.length)
          (fun n control => r.directory.length_queues_controlAt ..) _
      · intro key n hkey
        rw [Directory.obey_eq_of Directory.index fun n control => r.directory.index_controlAt ..]
        exact hkey
      · intro n id' q hq
        cases Directory.subscription?_of_obey hq with
        | inl hold => exact .inl hold
        | inr hnew =>
          obtain ⟨rfl, rfl, hkey⟩ := hnew
          rw [hid]
          exact .inr ⟨⟨peer, hpeer, rfl⟩, hkey⟩
  | hangUp id =>
    rw [Router.act]
    cases hpeer : r.peers.find? id with
    | none =>
      rw [hangUp_of_none hpeer]
      exact h
    | some peer =>
      rw [hangUp_of_some hpeer]
      exact h.withDirectory (Queues.length_hangUp ..) (fun _ _ hkey => hkey)
        fun _ _ _ hq => .inl hq
  | finish id =>
    rw [Router.act]
    cases hpeer : r.peers.find? id with
    | none =>
      rw [finish_of_none hpeer]
      exact h
    | some peer => exact h.finish hpeer
  | push n p =>
    rw [act_push]
    apply h.withDirectory (r.directory.length_queues_push n p)
    · intro key m hkey
      rw [Directory.index_push, hkey]
    · exact fun _ _ _ hq => .inl (Directory.subscription?_of_push hq)
  | newService name length =>
    rw [Router.act]
    split
    · exact h
    · next s hs =>
      obtain ⟨-, rfl⟩ := PushService.ofName_eq_ok_iff.mp hs
      refine h.withDirectory ?_ ?_ fun n id q hq => ?_
      · rfl
      · exact fun _ _ hkey => hkey
      · rw [Directory.subscription?_newService] at hq
        split at hq
        · contradiction
        · exact .inl hq
  | register n =>
    apply h.withDirectory
    · rw [Directory.queues_register]
    · exact fun key m hkey => Directory.index_register_of_some hkey n
    · intro m id q hq
      rw [Directory.subscription?_register] at hq
      exact .inl hq
  | addPacket name =>
    exact ⟨h.numbered, h.counted, h.size_le, h.room, h.peer, h.owned, h.registered⟩

theorem after (acts : List Action) : (r.after acts).Consistent := by
  induction acts generalizing r with
  | nil => exact h
  | cons a acts ih => exact ih (h.act a)

end Consistent

/-! ## The connections of a run -/

/-- The connections of a router, each with its queue. -/
def connections (r : Router) : List (Nat × Nat) := r.peers.entries.map fun e => (e.1, e.2.queue)

/-- The connections after an action: a connection that is accepted comes
last, with the queue that is opened for it, and one that ends goes. -/
def track (live : List (Nat × Nat)) (x : Router × Action) : List (Nat × Nat) :=
  match x.2 with
  | .accept => live ++ (x.1.accept.1.map fun id => (id, x.1.directory.queues.length)).toList
  | .finish id => live.filter fun c => c.1 != id
  | _ => live

/-- The connections that were accepted in a run and have not ended. -/
def live (r : Router) (acts : List Action) : List (Nat × Nat) := (r.history acts).foldl track []

theorem mem_connections :
    (id, q) ∈ r.connections ↔ ∃ peer, r.peers.find? id = some peer ∧ peer.queue = q := by
  simp only [connections, List.mem_map, Prod.exists, Prod.mk.injEq, Table.mem_entries_iff]
  constructor
  · rintro ⟨id', peer, hpeer, rfl, hq⟩
    exact ⟨peer, hpeer, hq⟩
  · rintro ⟨peer, hpeer, hq⟩
    exact ⟨id, peer, hpeer, rfl, hq⟩

theorem length_connections (r : Router) : r.connections.length = r.peers.size := List.length_map _

/-- No two connections have the same number. -/
theorem nodup_numbers (r : Router) : (r.connections.map Prod.fst).Nodup := by
  have hkeys : r.connections.map Prod.fst = r.peers.keys := by
    rw [connections, List.map_map, Table.keys]
    rfl
  rw [hkeys]
  exact r.peers.nodup_keys

/-- The counter lets a connection in if there are fewer than there may be. -/
theorem tryCount_eq_ok (hroom : r.online + 1 < counterSize) :
    ∃ r', r.tryCount = .ok (decide (r.online < r.maxConnections), r') := by
  rw [tryCount, if_neg (Nat.not_le.mpr hroom)]
  split
  · next hlt => exact ⟨_, by rw [decide_eq_true hlt]⟩
  · next hfull => exact ⟨_, by rw [decide_eq_false hfull]⟩

namespace Consistent

variable (h : r.Consistent)

include h

/-- A connection is turned away just where the limit is reached. -/
theorem accept_eq_none_iff : r.accept.1 = none ↔ r.online = r.maxConnections := by
  have hcounted := h.counted
  have hle := h.size_le
  have hroom := h.room
  by_cases hfull : r.maxConnections ≤ r.online
  · rw [accept_of_le hfull]
    simp only [true_iff]
    omega
  · obtain ⟨peer, -, haccept⟩ := accept_of_lt (Nat.lt_of_not_le hfull) (by omega)
    rw [haccept]
    simp only [reduceCtorEq, false_iff]
    omega

/-- A connection that is accepted has the number that was next. -/
theorem of_accept (hid : r.accept.1 = some id) : id = r.nextId ∧
    ∃ peer, Peer.ofProtocol r.protocol r.nextId r.directory.queues.length = .ok peer ∧
      r.accept.2 = { r with
        directory := r.directory.newQueue.2
        online := r.online + 1
        nextId := r.nextId + 1
        peers := r.peers.insert r.nextId peer } := by
  have hroom := h.room
  by_cases hfull : r.maxConnections ≤ r.online
  · rw [accept_of_le hfull] at hid
    cases hid
  · obtain ⟨peer, hpeer, haccept⟩ := accept_of_lt (Nat.lt_of_not_le hfull) (by omega)
    rw [haccept] at hid ⊢
    cases hid
    exact ⟨rfl, peer, hpeer, rfl⟩

theorem accept_of_none (hnone : r.accept.1 = none) : r.accept = (none, r) := by
  rw [h.accept_eq_none_iff] at hnone
  exact accept_of_le (Nat.le_of_eq hnone.symm)

theorem connections_act (a : Action) : (r.act a).connections = track r.connections (r, a) := by
  cases a with
  | accept =>
    rw [Router.act, track]
    cases hid : r.accept.1 with
    | none => simp [h.accept_of_none hid]
    | some id =>
      obtain ⟨rfl, peer, hpeer, haccept⟩ := h.of_accept hid
      rw [haccept, connections, h.entries_insert, List.map_append, List.map_singleton,
        (Peer.ofProtocol_eq_ok hpeer).2.1]
      rfl
  | finish id =>
    rw [Router.act, track]
    cases hpeer : r.peers.find? id with
    | none =>
      rw [finish_of_none hpeer, eq_comm, List.filter_eq_self]
      rintro ⟨id', q⟩ hmem
      obtain ⟨peer, hpeer', -⟩ := mem_connections.mp hmem
      rw [bne_iff_ne]
      rintro rfl
      rw [hpeer] at hpeer'
      cases hpeer'
    | some peer =>
      simp only [finish_of_some hpeer, connections, List.filter_map, Table.erase, Entries.erase,
        ne_eq, decide_not]
      rfl
  | receive id text => rw [Router.act, track, connections, peers_receive, connections]
  | hangUp id => rw [Router.act, track, connections, peers_hangUp, connections]
  | push n p => rw [act_push, track, connections, connections]
  | newService name length =>
    rw [Router.act, track]
    split
    · rfl
    · rfl
  | register n => rw [Router.act, track, connections, connections]
  | addPacket name => rw [Router.act, track, connections, connections]

/-- The connections of a router are those that were accepted and have not
ended. -/
theorem connections_after (acts : List Action) :
    (r.after acts).connections = (r.history acts).foldl track r.connections := by
  induction acts generalizing r with
  | nil => rfl
  | cons a acts ih => rw [after_cons, ih (h.act a), h.connections_act, history, List.foldl_cons]

/-- No two connections have the same queue. -/
theorem nodup_queues : (r.connections.map Prod.snd).Nodup := by
  have hnumbers : (r.connections.map Prod.snd).map (· + 1) = r.peers.keys := by
    rw [connections, List.map_map, List.map_map, Table.keys]
    apply List.map_congr_left
    rintro ⟨id, peer⟩ hmem
    exact (h.peer id peer (Table.mem_entries_iff.mp hmem)).2.1
  apply List.Nodup.of_map (· + 1)
  rw [hnumbers]
  exact r.peers.nodup_keys

end Consistent

/-! ## Numbers -/

theorem nextId_le_act (h : r.Consistent) (a : Action) : r.nextId ≤ (r.act a).nextId := by
  obtain rfl | ⟨id, rfl⟩ | hother := r.act_cases a
  · rw [act]
    cases hid : r.accept.1 with
    | none => rw [h.accept_of_none hid]
    | some id =>
      obtain ⟨-, peer, -, haccept⟩ := h.of_accept hid
      rw [haccept]
      exact Nat.le_succ _
  · cases hpeer : r.peers.find? id with
    | none => rw [act, finish_of_none hpeer]
    | some peer => rw [act, finish_of_some hpeer]
  · rw [hother]

theorem maxConnections_act (h : r.Consistent) (a : Action) :
    (r.act a).maxConnections = r.maxConnections := by
  obtain rfl | ⟨id, rfl⟩ | hother := r.act_cases a
  · rw [act]
    cases hid : r.accept.1 with
    | none => rw [h.accept_of_none hid]
    | some id =>
      obtain ⟨-, peer, -, haccept⟩ := h.of_accept hid
      rw [haccept]
  · cases hpeer : r.peers.find? id with
    | none => rw [act, finish_of_none hpeer]
    | some peer => rw [act, finish_of_some hpeer]
  · rw [hother]

theorem maxConnections_after (h : r.Consistent) (acts : List Action) :
    (r.after acts).maxConnections = r.maxConnections := by
  induction acts generalizing r with
  | nil => rfl
  | cons a acts ih => rw [after_cons, ih (h.act a), maxConnections_act h]

theorem nextId_le_after (h : r.Consistent) (acts : List Action) :
    r.nextId ≤ (r.after acts).nextId := by
  induction acts generalizing r with
  | nil => exact Nat.le_refl _
  | cons a acts ih => exact Nat.le_trans (nextId_le_act h a) (ih (h.act a))

theorem after_append (r : Router) (acts more : List Action) :
    r.after (acts ++ more) = (r.after acts).after more :=
  List.foldl_append

/-- A number that was given is not given again. -/
theorem accept_ne (h : r.Consistent) (hid : r.accept.1 = some id) (acts : List Action) :
    ((r.act .accept).after acts).accept.1 ≠ some id := by
  intro hagain
  obtain ⟨rfl, peer, -, haccept⟩ := h.of_accept hid
  have hafter := (h.act .accept).after acts
  have hle := nextId_le_after (h.act .accept) acts
  rw [← (hafter.of_accept hagain).1, act, haccept] at hle
  exact absurd hle (Nat.not_succ_le_self _)

/-! ## After the end of a connection -/

/-- A connection that has ended with these frames on its queue. -/
structure Ended (r : Router) (id q : Nat) (frames : List String) : Prop where
  gone : r.peers.find? id = none
  past : id < r.nextId
  numbered : q + 1 = id
  isClosed : r.directory.queues.accepts q = false
  frames_eq : r.directory.queues.framesOf q = frames

variable {frames : List String}

theorem Ended.queue_lt (h : r.Ended id q frames) (hr : r.Consistent) :
    q < r.directory.queues.length := by
  have hpast := h.past
  have hqueue := h.numbered
  have hnext := hr.numbered
  omega

/-- The services may change what they like but closed queues. -/
theorem Ended.withDirectory (h : r.Ended id q frames) {d : Directory}
    (haccepts : d.queues.accepts q = false)
    (hframes : d.queues.framesOf q = r.directory.queues.framesOf q) :
    ({ r with directory := d } : Router).Ended id q frames :=
  ⟨h.gone, h.past, h.numbered, haccepts, hframes.trans h.frames_eq⟩

theorem Ended.act (h : r.Ended id q frames) (hr : r.Consistent) (a : Action) :
    (r.act a).Ended id q frames := by
  cases a with
  | accept =>
    rw [Router.act]
    cases hid : r.accept.1 with
    | none =>
      rw [hr.accept_of_none hid]
      exact h
    | some id' =>
      obtain ⟨-, peer, -, haccept⟩ := hr.of_accept hid
      have hlt := h.queue_lt hr
      rw [haccept]
      constructor
      case gone => rw [Table.find?_insert, if_neg (Nat.ne_of_lt h.past), h.gone]
      case past => exact Nat.lt_succ_of_lt h.past
      case numbered => exact h.numbered
      case isClosed => exact (Queues.accepts_append_of_lt hlt {}).trans h.isClosed
      case frames_eq => exact (Queues.framesOf_append_of_lt hlt {}).trans h.frames_eq
  | receive id' text =>
    rw [Router.act]
    cases hpeer : r.peers.find? id' with
    | none =>
      rw [receive_of_none hpeer]
      exact h
    | some peer =>
      obtain ⟨-, -, -, hready⟩ := hr.peer id' peer hpeer
      rw [receive_of_some hpeer, Directory.receive_of_ready hready]
      apply h.withDirectory
      · rw [Directory.obey_eq_of (fun d => d.queues.accepts q)
          fun n control => r.directory.accepts_controlAt ..]
        exact h.isClosed
      · exact Directory.obey_eq_of (fun d => d.queues.framesOf q)
          (fun n control => Directory.framesOf_controlAt_of_closed h.isClosed ..) _
  | hangUp id' =>
    rw [Router.act]
    cases hpeer : r.peers.find? id' with
    | none =>
      rw [hangUp_of_none hpeer]
      exact h
    | some peer =>
      rw [hangUp_of_some hpeer]
      apply h.withDirectory
      · rw [Directory.hangUp, Queues.accepts_hangUp, h.isClosed, Bool.false_and]
      · rw [Directory.hangUp, Queues.framesOf_hangUp]
  | finish id' =>
    rw [Router.act]
    cases hpeer : r.peers.find? id' with
    | none =>
      rw [finish_of_none hpeer]
      exact h
    | some peer =>
      have hgone := r.find?_peers_finish id' id
      rw [h.gone, ite_self] at hgone
      rw [finish_of_some hpeer] at hgone ⊢
      refine ⟨hgone, h.past, h.numbered, ?_, ?_⟩
      · rw [Directory.hangUp, Queues.accepts_hangUp, Directory.queues_unsubscribeAll, h.isClosed,
          Bool.false_and]
      · rw [Directory.hangUp, Queues.framesOf_hangUp, Directory.queues_unsubscribeAll, h.frames_eq]
  | push n p =>
    rw [act_push]
    apply h.withDirectory
    · rw [Directory.accepts_push, h.isClosed]
    · exact Directory.framesOf_push_of_closed h.isClosed n p
  | newService name length =>
    rw [Router.act]
    split
    · exact h
    · exact h.withDirectory h.isClosed rfl
  | register n =>
    apply h.withDirectory
    · rw [Directory.queues_register, h.isClosed]
    · rw [Directory.queues_register]
  | addPacket name => exact ⟨h.gone, h.past, h.numbered, h.isClosed, h.frames_eq⟩

/-- A connection that has ended gets nothing more. -/
theorem Ended.after (h : r.Ended id q frames) (hr : r.Consistent) (acts : List Action) :
    (r.after acts).Ended id q frames := by
  induction acts generalizing r with
  | nil => exact h
  | cons a acts ih => exact ih (h.act hr a) (hr.act a)

/-- A connection that has ended is not there, is subscribed to nothing, and
leaves no subscription by its queue. -/
theorem Ended.unheard (h : r.Ended id q frames) (hr : r.Consistent) :
    (∀ q', (id, q') ∉ r.connections) ∧ (∀ n, r.directory.isSubscribed n id = false) ∧
      ∀ n id', r.directory.subscription? n id' ≠ some q := by
  refine ⟨fun q' hmem => ?_, fun n => ?_, fun n id' hq => ?_⟩
  · obtain ⟨peer, hpeer, -⟩ := mem_connections.mp hmem
    rw [h.gone] at hpeer
    cases hpeer
  · rw [Directory.isSubscribed_eq_isSome]
    cases hq : r.directory.subscription? n id with
    | none => rfl
    | some q' =>
      obtain ⟨peer, hpeer, -⟩ := hr.owned n id q' hq
      rw [h.gone] at hpeer
      cases hpeer
  · -- the queue has the number of this connection, so it could only be its own
    obtain ⟨peer, hpeer, hqueue⟩ := hr.owned n id' q hq
    have hnumber := (hr.peer id' peer hpeer).2.1
    rw [hqueue, h.numbered] at hnumber
    rw [← hnumber, h.gone] at hpeer
    cases hpeer

/-- A connection that is finished has ended, with the frames that it got. -/
theorem Consistent.ended_finish (h : r.Consistent) (hpeer : r.peers.find? id = some peer) :
    (r.finish id).Ended id peer.queue (r.directory.queues.framesOf peer.queue) := by
  obtain ⟨-, hnumber, hpast, -⟩ := h.peer id peer hpeer
  have hgone := r.find?_peers_finish id id
  rw [if_pos rfl] at hgone
  rw [finish_of_some hpeer] at hgone ⊢
  refine ⟨hgone, hpast, hnumber, ?_, ?_⟩
  · simp [Directory.hangUp, Queues.accepts_hangUp]
  · rw [Directory.hangUp, Queues.framesOf_hangUp, Directory.queues_unsubscribeAll]

/-! ## Any run -/

/-- What a router has to do with its connections after a run of `acts`. -/
structure Accounted (r₀ : Router) (acts : List Action) : Prop where
  /-- the counter is the number of connections -/
  online : (r₀.after acts).online = (r₀.live acts).length
  within : (r₀.after acts).online ≤ r₀.maxConnections
  /-- only with as many connections as there may be is none accepted -/
  refused : (r₀.after acts).accept = (none, r₀.after acts) ↔
    (r₀.live acts).length = r₀.maxConnections
  /-- an attempt has that answer unless there are as many as can be counted -/
  answered : (r₀.live acts).length + 1 < counterSize →
    ∃ r, (r₀.after acts).tryCount = .ok (decide ((r₀.live acts).length < r₀.maxConnections), r)
  /-- no two connections that were ever accepted have the same number -/
  accepted : ∀ id before more, acts = before ++ .accept :: more →
    (r₀.after before).accept.1 = some id → (r₀.after acts).accept.1 ≠ some id
  /-- connections that are there have numbers and queues of their own -/
  distinct : ((r₀.live acts).map Prod.fst).Nodup ∧ ((r₀.live acts).map Prod.snd).Nodup
  /-- every subscriber is one of them, with its own queue -/
  subscribed : ∀ n id q, (r₀.after acts).directory.subscription? n id = some q →
    (id, q) ∈ r₀.live acts
  /-- one that has ended is not there and not subscribed, nobody is subscribed
  with its queue, and nothing more is put on that -/
  ended : ∀ id q before more, acts = before ++ .finish id :: more → (id, q) ∈ r₀.live before →
    (∀ q', (id, q') ∉ r₀.live acts) ∧
    (∀ n, (r₀.after acts).directory.isSubscribed n id = false) ∧
    (∀ n id', (r₀.after acts).directory.subscription? n id' ≠ some q) ∧
    (r₀.after acts).directory.queues.framesOf q = (r₀.after before).directory.queues.framesOf q
  /-- a text changes neither the protocol nor a connection, and of the
  services only who is subscribed to them -/
  texts : ∀ id text,
    ((r₀.after acts).receive id text).protocol = (r₀.after acts).protocol ∧
    ((r₀.after acts).receive id text).peers = (r₀.after acts).peers ∧
    ((r₀.after acts).receive id text).directory.index = (r₀.after acts).directory.index ∧
    ((r₀.after acts).receive id text).directory.unattended = (r₀.after acts).directory.unattended

/-- A text changes neither the protocol nor a connection, and of the services
only who is subscribed to them. -/
theorem Consistent.receive_keeps (h : r.Consistent) (id : Nat) (text : String) :
    (r.receive id text).protocol = r.protocol ∧ (r.receive id text).peers = r.peers ∧
    (r.receive id text).directory.index = r.directory.index ∧
    (r.receive id text).directory.unattended = r.directory.unattended := by
  cases hpeer : r.peers.find? id with
  | none =>
    rw [receive_of_none hpeer]
    exact ⟨rfl, rfl, rfl, rfl⟩
  | some peer =>
    obtain ⟨-, -, -, hready⟩ := h.peer id peer hpeer
    rw [receive_of_some hpeer, Directory.receive_of_ready hready]
    refine ⟨rfl, rfl, ?_, ?_⟩
    · exact Directory.obey_eq_of Directory.index
        (fun n control => r.directory.index_controlAt ..) _
    · exact Directory.obey_eq_of Directory.unattended
        (fun n control => r.directory.unattended_controlAt ..) _

/-- A router accounts for its connections in every run. -/
theorem accounted_after (config : RouterConfig) (hlimit : config.maxConnections < counterSize)
    (acts : List Action) : Accounted (start config) acts := by
  have hstart := Consistent.start hlimit
  have hr := hstart.after acts
  have hlive : ∀ acts, ((start config).after acts).connections = (start config).live acts :=
    hstart.connections_after
  have hlimit : ((start config).after acts).maxConnections = (start config).maxConnections :=
    maxConnections_after hstart acts
  have honline : ((start config).after acts).online = ((start config).live acts).length := by
    rw [hr.counted, ← length_connections, hlive]
  constructor
  case online => exact honline
  case within =>
    rw [hr.counted, ← hlimit]
    exact hr.size_le
  case refused =>
    rw [← honline, ← hlimit, ← hr.accept_eq_none_iff]
    constructor
    · intro hnone
      rw [hnone]
    · exact hr.accept_of_none
  case answered =>
    rw [← honline, ← hlimit]
    exact tryCount_eq_ok
  case accepted =>
    rintro id before more rfl hid
    rw [after_append, after_cons]
    exact accept_ne (hstart.after before) hid more
  case distinct =>
    rw [← hlive]
    exact ⟨nodup_numbers _, hr.nodup_queues⟩
  case subscribed =>
    intro n id q hq
    rw [← hlive, mem_connections]
    exact hr.owned n id q hq
  case ended =>
    rintro id q before more rfl hmem
    have hbefore := hstart.after before
    rw [← hlive, mem_connections] at hmem
    obtain ⟨peer, hpeer, rfl⟩ := hmem
    have hended := (hbefore.ended_finish hpeer).after (hbefore.finish hpeer) more
    rw [after_append, after_cons, act] at hr
    rw [← hlive, after_append, after_cons, act]
    obtain ⟨hgone, hunsubscribed, hunused⟩ := hended.unheard hr
    exact ⟨hgone, hunsubscribed, hunused, hended.frames_eq⟩
  case texts => exact fun id text => hr.receive_keeps id text

/-- The one connection that there may be ends while it is subscribed, and
another one takes its place. -/
theorem accounted_after_turnover :
    let config : RouterConfig := { maxConnections := 1 }
    let clock := "\x7b\"name\":\"subscribe\",\"data\":\x7b\"service\":\"Clock\"\x7d\x7d"
    let tick : Action := .push 0 ⟨"clock", .null, by decide⟩
    let acts : List Action :=
      [.accept, .receive 1 clock, .accept, tick, .finish 1, .accept, tick, .receive 1 clock]
    config.maxConnections < counterSize ∧ Accounted (start config) acts ∧
    (start config).live (acts.take 4) = [(1, 0)] ∧ (start config).live acts = [(2, 1)] ∧
    ((start config).after acts).directory.queues =
      [⟨false, ["\x7b\"name\":\"clock\",\"data\":null\x7d"]⟩, ⟨true, []⟩] := by
  intro config clock tick acts
  have hlimit : config.maxConnections < counterSize := by decide
  exact ⟨hlimit, accounted_after config hlimit acts, by decide +kernel⟩

end Router

end PushRelay
