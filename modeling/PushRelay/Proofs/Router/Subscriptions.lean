import PushRelay.Proofs.Router.Control
import PushRelay.Proofs.Router.Services

/-!
# PushRelay.Proofs.Router.Subscriptions

What each operation on the services of a router does to the subscriptions
(`Directory.subscription?`), to the services apart from their subscribers
(`Directory.unattended`), and to the queues.
-/

namespace PushRelay

namespace PushService

variable {s : PushService}

/-- The service without its subscribers. -/
def unattended (s : PushService) : PushService := { s with subscribers := ∅ }

@[simp] theorem unattended_subscribe (s : PushService) (id q : Nat) (qs : Queues) :
    (s.subscribe id q qs).2.1.unattended = s.unattended := by
  cases s.subscribe_cases id q qs with
  | inl h => rw [h]
  | inr h => rw [h.2.2, unattended, unattended]

@[simp] theorem unattended_unsubscribe (s : PushService) (id : Nat) :
    (s.unsubscribe id).2.unattended = s.unattended := rfl

/-- What is remembered does not depend on the subscribers. -/
theorem unattended_remember (s : PushService) (frame : String) :
    (s.remember frame).unattended = s.unattended.remember frame := by
  unfold remember unattended
  split
  · rfl
  · split
    · rfl
    · rfl

theorem unattended_pushFrame (s : PushService) (frame : String) (qs : Queues) :
    (s.pushFrame frame qs).1.unattended = s.unattended.remember frame := by
  rw [← unattended_remember]
  rfl

theorem length_queues_subscribe (s : PushService) (id q : Nat) (qs : Queues) :
    (s.subscribe id q qs).2.2.length = qs.length := by
  cases s.subscribe_cases id q qs with
  | inl h => rw [h]
  | inr h => rw [h.2.2, Queues.length_putAll]

theorem getElem?_queues_subscribe {q q' : Nat} (hq : q ≠ q') (s : PushService) (id : Nat)
    (qs : Queues) : (s.subscribe id q qs).2.2[q']? = qs[q']? := by
  cases s.subscribe_cases id q qs with
  | inl h => rw [h]
  | inr h => rw [h.2.2, Queues.getElem?_putAll_of_ne hq]

end PushService

namespace Directory

variable {d : Directory} {n m id id' q q' : Nat} {s s' : PushService} {qs : Queues}

/-- The queue by which a connection is subscribed to the service with number
`n`. -/
def subscription? (d : Directory) (n id : Nat) : Option Nat :=
  d.services[n]?.bind fun s => s.subscribers.find? id

/-- Whether a connection is subscribed to the service with number `n`. -/
def isSubscribed (d : Directory) (n id : Nat) : Bool :=
  d.services[n]?.any fun s => s.isSubscribed id

/-- The services without their subscribers. -/
def unattended (d : Directory) : List PushService := d.services.map PushService.unattended

theorem nameOf?_unattended (d : Directory) (n : Nat) :
    d.unattended[n]?.map PushService.name = d.nameOf? n := by
  rw [unattended, List.getElem?_map, Option.map_map, nameOf?]
  rfl

theorem isSubscribed_eq_isSome (d : Directory) (n id : Nat) :
    d.isSubscribed n id = (d.subscription? n id).isSome := by
  rw [isSubscribed, subscription?]
  cases d.services[n]? with
  | none => rfl
  | some s => rfl

theorem subscription?_of_services (hs : d.services[n]? = some s) (id : Nat) :
    d.subscription? n id = s.subscribers.find? id := by
  rw [subscription?, hs, Option.bind_some]

/-! ## A service that is replaced -/

theorem isSubscribed_replace_of_ne (h : m ≠ n) (s : PushService) (qs : Queues) :
    (d.replace m s qs).isSubscribed n id = d.isSubscribed n id := by
  rw [isSubscribed, replace, List.getElem?_set_ne h, isSubscribed]

theorem isSubscribed_replace_self (hs : d.services[n]? = some s) (qs : Queues) :
    (d.replace n s' qs).isSubscribed n id = s'.isSubscribed id := by
  have hlt : n < d.services.length := (List.getElem?_eq_some_iff.mp hs).1
  rw [isSubscribed, replace, List.getElem?_set_self hlt, Option.any_some]

theorem subscription?_replace (hs : d.services[m]? = some s) (s' : PushService) (qs : Queues)
    (n id : Nat) : (d.replace m s' qs).subscription? n id =
      if n = m then s'.subscribers.find? id else d.subscription? n id := by
  by_cases hn : n = m
  · have hlt : m < d.services.length := (List.getElem?_eq_some_iff.mp hs).1
    rw [if_pos hn, hn, subscription?, replace, List.getElem?_set_self hlt, Option.bind_some]
  · rw [if_neg hn, subscription?, replace, List.getElem?_set_ne (Ne.symm hn), subscription?]

theorem unattended_replace (d : Directory) (n : Nat) (s : PushService) (qs : Queues) :
    (d.replace n s qs).unattended = d.unattended.set n s.unattended := by
  rw [unattended, replace, List.map_set, unattended]

/-- Only the subscribers of a service are replaced. -/
theorem unattended_replace_of_eq (hs : d.services[n]? = some s)
    (h : s'.unattended = s.unattended) (qs : Queues) :
    (d.replace n s' qs).unattended = d.unattended := by
  have hsame : d.unattended[n]? = some s'.unattended := by
    rw [unattended, List.getElem?_map, hs, Option.map_some, h]
  obtain ⟨hlt, hget⟩ := List.getElem?_eq_some_iff.mp hsame
  rw [unattended_replace, ← hget, List.set_getElem_self]

/-! ## Subscribing -/

theorem subscription?_subscribeTo (d : Directory) (m id q n id' : Nat) :
    (d.subscribeTo m id q).2.subscription? n id' =
      if n = m ∧ id' = id ∧ (d.subscribeTo m id q).1 = true then some q
      else d.subscription? n id' := by
  cases hs : d.services[m]? with
  | none => simp [subscribeTo, hs]
  | some s =>
    rw [subscribeTo_of_some hs, subscription?_replace hs, PushService.find?_subscribe]
    by_cases hn : n = m
    · simp only [hn, true_and, if_true, subscription?_of_services hs]
    · simp only [hn, false_and, if_false]

/-- Who is not subscribed is subscribed, if the queue is open. -/
theorem subscribeTo_fst (hs : d.services[n]? = some s) (hnew : d.subscription? n id = none)
    (hopen : d.queues.accepts q = true) : (d.subscribeTo n id q).1 = true := by
  have hfree : s.isSubscribed id = false := by
    rw [PushService.isSubscribed, Table.contains, ← subscription?_of_services hs, hnew]
    rfl
  rw [subscribeTo_of_some hs]
  exact PushService.subscribe_fst_iff.mpr ⟨hfree, .inr hopen⟩

theorem unattended_subscribeTo (d : Directory) (m id q : Nat) :
    (d.subscribeTo m id q).2.unattended = d.unattended := by
  cases hs : d.services[m]? with
  | none => simp only [subscribeTo, hs]
  | some s =>
    rw [subscribeTo_of_some hs]
    exact unattended_replace_of_eq hs (s.unattended_subscribe id q d.queues) _

theorem index_subscribeTo (d : Directory) (m id q : Nat) :
    (d.subscribeTo m id q).2.index = d.index := by
  cases hs : d.services[m]? with
  | none => simp only [subscribeTo, hs]
  | some s => rw [subscribeTo_of_some hs, replace]

theorem accepts_subscribeTo (d : Directory) (m id q q' : Nat) :
    (d.subscribeTo m id q).2.queues.accepts q' = d.queues.accepts q' := by
  cases hs : d.services[m]? with
  | none => simp only [subscribeTo, hs]
  | some s => rw [subscribeTo_of_some hs, replace, PushService.accepts_subscribe]

theorem length_queues_subscribeTo (d : Directory) (m id q : Nat) :
    (d.subscribeTo m id q).2.queues.length = d.queues.length := by
  cases hs : d.services[m]? with
  | none => simp only [subscribeTo, hs]
  | some s => rw [subscribeTo_of_some hs, replace, PushService.length_queues_subscribe]

theorem getElem?_queues_subscribeTo (hq : q ≠ q') (d : Directory) (m id : Nat) :
    (d.subscribeTo m id q).2.queues[q']? = d.queues[q']? := by
  cases hs : d.services[m]? with
  | none => simp only [subscribeTo, hs]
  | some s => rw [subscribeTo_of_some hs, replace, PushService.getElem?_queues_subscribe hq]

/-- Nothing is put on a queue that has been hung up. -/
theorem framesOf_subscribeTo_of_closed (hclosed : d.queues.accepts q' = false) (n id q : Nat) :
    (d.subscribeTo n id q).2.queues.framesOf q' = d.queues.framesOf q' := by
  cases hs : d.services[n]? with
  | none => simp only [subscribeTo, hs]
  | some s =>
    rw [subscribeTo_of_some hs, replace, PushService.framesOf_subscribe]
    split
    · next hnew =>
      obtain ⟨rfl, hnew⟩ := hnew
      cases (PushService.subscribe_fst_iff.mp hnew).2 with
      | inl hnil => rw [hnil, List.append_nil]
      | inr hopen =>
        rw [hclosed] at hopen
        contradiction
    · rw [List.append_nil]

/-! ## Unsubscribing -/

theorem subscription?_unsubscribeFrom (d : Directory) (m id n id' : Nat) :
    (d.unsubscribeFrom m id).2.subscription? n id' =
      if n = m ∧ id' = id then none else d.subscription? n id' := by
  cases hs : d.services[m]? with
  | none =>
    simp only [unsubscribeFrom, hs]
    split
    · next h => rw [h.1, subscription?, hs, Option.bind_none]
    · rfl
  | some s =>
    rw [unsubscribeFrom_of_some hs, subscription?_replace hs, PushService.find?_unsubscribe]
    by_cases hn : n = m
    · simp only [hn, true_and, if_true, subscription?_of_services hs]
    · simp only [hn, false_and, if_false]

theorem unattended_unsubscribeFrom (d : Directory) (m id : Nat) :
    (d.unsubscribeFrom m id).2.unattended = d.unattended := by
  cases hs : d.services[m]? with
  | none => simp only [unsubscribeFrom, hs]
  | some s =>
    rw [unsubscribeFrom_of_some hs]
    exact unattended_replace_of_eq hs (s.unattended_unsubscribe id) _

theorem index_unsubscribeFrom (d : Directory) (m id : Nat) :
    (d.unsubscribeFrom m id).2.index = d.index := by
  cases hs : d.services[m]? with
  | none => simp only [unsubscribeFrom, hs]
  | some s => rw [unsubscribeFrom_of_some hs, replace]

theorem queues_unsubscribeFrom (d : Directory) (m id : Nat) :
    (d.unsubscribeFrom m id).2.queues = d.queues := by
  cases hs : d.services[m]? with
  | none => simp only [unsubscribeFrom, hs]
  | some s => rw [unsubscribeFrom_of_some hs, replace]

/-- Ends the subscriptions of a connection to the services with these
numbers. -/
theorem subscription?_foldl_unsubscribeFrom (d : Directory) (ns : List Nat) (id n id' : Nat) :
    (ns.foldl (fun d n => (d.unsubscribeFrom n id).2) d).subscription? n id' =
      if id' = id ∧ n ∈ ns then none else d.subscription? n id' := by
  induction ns generalizing d with
  | nil => simp
  | cons m ns ih =>
    rw [List.foldl_cons, ih, subscription?_unsubscribeFrom]
    by_cases hid : id' = id
    · by_cases hn : n = m
      · simp [hid, hn]
      · simp [hid, hn]
    · simp [hid]

theorem subscription?_unsubscribeAll (d : Directory) (id n id' : Nat) :
    (d.unsubscribeAll id).subscription? n id' =
      if id' = id ∧ n ∈ d.index.values then none else d.subscription? n id' :=
  d.subscription?_foldl_unsubscribeFrom d.index.values id n id'

/-- What the end of a subscription does not change is not changed by the end
of all. -/
theorem unsubscribeAll_eq_of {α : Type} (f : Directory → α)
    (h : ∀ (d : Directory) (n : Nat), f (d.unsubscribeFrom n id).2 = f d) (d : Directory) :
    f (d.unsubscribeAll id) = f d := by
  unfold unsubscribeAll
  generalize d.index.values = ns
  induction ns generalizing d with
  | nil => rfl
  | cons n ns ih => exact (ih _).trans (h d n)

theorem queues_unsubscribeAll (d : Directory) (id : Nat) :
    (d.unsubscribeAll id).queues = d.queues :=
  unsubscribeAll_eq_of queues (fun d n => d.queues_unsubscribeFrom n id) d

theorem index_unsubscribeAll (d : Directory) (id : Nat) :
    (d.unsubscribeAll id).index = d.index :=
  unsubscribeAll_eq_of index (fun d n => d.index_unsubscribeFrom n id) d

theorem unattended_unsubscribeAll (d : Directory) (id : Nat) :
    (d.unsubscribeAll id).unattended = d.unattended :=
  unsubscribeAll_eq_of unattended (fun d n => d.unattended_unsubscribeFrom n id) d

theorem keeps_unsubscribeAll (d : Directory) (id : Nat) : d.Keeps (d.unsubscribeAll id) := by
  intro n name h
  rw [← nameOf?_unattended, unattended_unsubscribeAll, nameOf?_unattended, h]

/-! ## New services -/

/-- A new service has the subscribers that it comes with. -/
theorem subscription?_newService (d : Directory) (s : PushService) (n id : Nat) :
    (d.newService s).2.subscription? n id =
      if n = d.services.length then s.subscribers.find? id else d.subscription? n id := by
  rw [subscription?, newService, List.getElem?_append, subscription?]
  by_cases hn : n = d.services.length
  · simp [hn]
  · rw [if_neg hn]
    split
    · rfl
    · have hlast : n - d.services.length ≠ 0 := by omega
      have hnone : d.services[n]? = none := by
        rw [List.getElem?_eq_none_iff]
        omega
      rw [hnone, List.getElem?_singleton, if_neg hlast]

theorem subscription?_register (d : Directory) (m n id : Nat) :
    (d.register m).2.subscription? n id = d.subscription? n id := by
  rw [subscription?, services_register, subscription?]

theorem queues_register (d : Directory) (n : Nat) : (d.register n).2.queues = d.queues := by
  unfold register
  split
  · rfl
  · split
    · rfl
    · rfl

/-- What is registered stays so. -/
theorem index_register_of_some {key : String} (h : d.index.find? key = some n) (m : Nat) :
    (d.register m).2.index.find? key = some n := by
  unfold register
  split
  · exact h
  · next s _ =>
    split
    · exact h
    · next hfree =>
      have hne : key ≠ Text.lowercase s.name := by
        rintro rfl
        rw [number?, h] at hfree
        exact hfree rfl
      rw [Table.find?_insert, if_neg hne, h]

/-! ## Controls -/

theorem index_controlAt (d : Directory) (n id q : Nat) (control : Control) :
    (d.controlAt n id q control).index = d.index := by
  cases control with
  | subscribe => exact index_subscribeTo d n id q
  | unsubscribe => exact index_unsubscribeFrom d n id

theorem unattended_controlAt (d : Directory) (n id q : Nat) (control : Control) :
    (d.controlAt n id q control).unattended = d.unattended := by
  cases control with
  | subscribe => exact unattended_subscribeTo d n id q
  | unsubscribe => exact unattended_unsubscribeFrom d n id

theorem accepts_controlAt (d : Directory) (n id q : Nat) (control : Control) (q' : Nat) :
    (d.controlAt n id q control).queues.accepts q' = d.queues.accepts q' := by
  cases control with
  | subscribe => exact accepts_subscribeTo d n id q q'
  | unsubscribe => rw [controlAt, queues_unsubscribeFrom]

theorem length_queues_controlAt (d : Directory) (n id q : Nat) (control : Control) :
    (d.controlAt n id q control).queues.length = d.queues.length := by
  cases control with
  | subscribe => exact length_queues_subscribeTo d n id q
  | unsubscribe => rw [controlAt, queues_unsubscribeFrom]

theorem framesOf_controlAt_of_closed (hclosed : d.queues.accepts q' = false) (n id q : Nat)
    (control : Control) :
    (d.controlAt n id q control).queues.framesOf q' = d.queues.framesOf q' := by
  cases control with
  | subscribe => exact framesOf_subscribeTo_of_closed hclosed n id q
  | unsubscribe => rw [controlAt, queues_unsubscribeFrom]

/-- A control for a connection does nothing to other queues. -/
theorem getElem?_queues_controlAt (hq : q ≠ q') (d : Directory) (n id : Nat) (control : Control) :
    (d.controlAt n id q control).queues[q']? = d.queues[q']? := by
  cases control with
  | subscribe => exact getElem?_queues_subscribeTo hq d n id
  | unsubscribe => rw [controlAt, queues_unsubscribeFrom]

/-- A control for a connection does nothing to the subscriptions of others,
or to other services. -/
theorem subscription?_controlAt_of_ne (h : n ≠ m ∨ id' ≠ id) (d : Directory) (q : Nat)
    (control : Control) :
    (d.controlAt m id q control).subscription? n id' = d.subscription? n id' := by
  have hother : ¬ (n = m ∧ id' = id) := by
    rintro ⟨hn, hid⟩
    cases h with
    | inl h => exact h hn
    | inr h => exact h hid
  cases control with
  | subscribe =>
    rw [controlAt, subscription?_subscribeTo, if_neg fun h => hother ⟨h.1, h.2.1⟩]
  | unsubscribe => rw [controlAt, subscription?_unsubscribeFrom, if_neg hother]

/-- The only subscription that a control makes is that of its connection,
with its queue, to its service. -/
theorem subscription?_of_controlAt {control : Control} {q' : Nat}
    (h : (d.controlAt m id q control).subscription? n id' = some q') :
    d.subscription? n id' = some q' ∨ (n = m ∧ id' = id ∧ q' = q) := by
  cases control with
  | subscribe =>
    rw [controlAt, subscription?_subscribeTo] at h
    split at h
    · next hnew =>
      cases h
      exact .inr ⟨hnew.1, hnew.2.1, rfl⟩
    · exact .inl h
  | unsubscribe =>
    rw [controlAt, subscription?_unsubscribeFrom] at h
    split at h
    · contradiction
    · exact .inl h

/-- The only subscription that a frame makes is that of its connection, with
its queue, to a registered service. -/
theorem subscription?_of_obey {request : Option (Control × String)} {q' : Nat}
    (h : (d.obey id q request).subscription? n id' = some q') :
    d.subscription? n id' = some q' ∨
      (id' = id ∧ q' = q ∧ ∃ key, d.index.find? key = some n) := by
  unfold obey at h
  split at h
  · exact .inl h
  · split at h
    · exact .inl h
    · next control service _ m hm =>
      cases subscription?_of_controlAt h with
      | inl hold => exact .inl hold
      | inr hnew =>
        obtain ⟨rfl, hid, hq⟩ := hnew
        exact .inr ⟨hid, hq, Text.lowercase service, hm⟩

theorem keeps_obey (d : Directory) (id q : Nat) (request : Option (Control × String)) :
    d.Keeps (d.obey id q request) := by
  unfold obey
  split
  · exact .refl d
  · split
    · exact .refl d
    · next control _ _ n _ =>
      cases control with
      | subscribe => exact keeps_subscribeTo d n id q
      | unsubscribe => exact keeps_unsubscribeFrom d n id

/-- After a control the connection is subscribed as it asked for, if its
queue is open. -/
theorem isSubscribed_controlAt (hs : d.services[n]? = some s)
    (hopen : d.queues.accepts q = true) (control : Control) :
    (d.controlAt n id q control).isSubscribed n id = decide (control = .subscribe) := by
  rw [isSubscribed_eq_isSome]
  cases control with
  | subscribe =>
    rw [controlAt, subscription?_subscribeTo]
    cases hold : d.subscription? n id with
    | none => simp [subscribeTo_fst hs hold hopen]
    | some q' => split <;> rfl
  | unsubscribe => simp [controlAt, subscription?_unsubscribeFrom]

/-! ## Pushing -/

theorem replace_self (hs : d.services[n]? = some s) : d.replace n s d.queues = d := by
  obtain ⟨hlt, hget⟩ := List.getElem?_eq_some_iff.mp hs
  rw [replace, ← hget, List.set_getElem_self]

theorem push_of_none (hs : d.services[n]? = none) (p : Packet Json) : (d.push n p).2 = d := by
  simp only [push, hs]

/-- A packet that is too large changes nothing. -/
theorem push_of_error {p : Packet Json} {e : RelayError} (hp : p.encode = .error e)
    (d : Directory) (n : Nat) : (d.push n p).2 = d := by
  cases hs : d.services[n]? with
  | none => exact push_of_none hs p
  | some s => rw [push_of_some hs, PushService.push_of_error hp, replace_self hs]

theorem push_of_ok {p : Packet Json} {frame : String} (hp : p.encode = .ok frame)
    (hs : d.services[n]? = some s) :
    (d.push n p).2 =
      d.replace n (s.pushFrame frame d.queues).1 (s.pushFrame frame d.queues).2 := by
  rw [push_of_some hs, PushService.push_of_ok hp]

/-- A push drops the subscribers whose queue is not open. -/
theorem subscription?_push {p : Packet Json} {frame : String} (hp : p.encode = .ok frame)
    (d : Directory) (m n id : Nat) :
    (d.push m p).2.subscription? n id =
      if n = m then (d.subscription? n id).filter (fun q => d.queues.accepts q)
      else d.subscription? n id := by
  cases hs : d.services[m]? with
  | none =>
    rw [push_of_none hs]
    split
    · next hn => rw [hn, subscription?, hs, Option.bind_none, Option.filter_none]
    · rfl
  | some s =>
    rw [push_of_ok hp hs, subscription?_replace hs, PushService.find?_pushFrame]
    split
    · next hn => rw [hn, subscription?_of_services hs]
    · rfl

theorem subscription?_of_push {p : Packet Json}
    (h : (d.push m p).2.subscription? n id = some q) : d.subscription? n id = some q := by
  cases hp : p.encode with
  | error e =>
    rw [push_of_error hp] at h
    exact h
  | ok frame =>
    rw [subscription?_push hp] at h
    split at h
    · exact (Option.filter_eq_some_iff.mp h).1
    · exact h

/-- A push keeps a subscriber whose queue is open. -/
theorem isSubscribed_push (hopen : ∀ q, d.subscription? n id = some q → d.queues.accepts q = true)
    (m : Nat) (p : Packet Json) : (d.push m p).2.isSubscribed n id = d.isSubscribed n id := by
  cases hp : p.encode with
  | error e => rw [push_of_error hp]
  | ok frame =>
    rw [isSubscribed_eq_isSome, isSubscribed_eq_isSome, subscription?_push hp]
    split
    · cases hq : d.subscription? n id with
      | none => rfl
      | some q => rw [Option.filter_some, if_pos (hopen q hq)]
    · rfl

theorem index_push (d : Directory) (n : Nat) (p : Packet Json) :
    (d.push n p).2.index = d.index := by
  cases hs : d.services[n]? with
  | none => rw [push_of_none hs]
  | some s => rw [push_of_some hs, replace]

theorem accepts_push (d : Directory) (n : Nat) (p : Packet Json) (q : Nat) :
    (d.push n p).2.queues.accepts q = d.queues.accepts q := by
  cases hp : p.encode with
  | error e => rw [push_of_error hp]
  | ok frame =>
    cases hs : d.services[n]? with
    | none => rw [push_of_none hs]
    | some s => rw [push_of_ok hp hs, replace, PushService.accepts_pushFrame]

theorem framesOf_push_of_closed (hclosed : d.queues.accepts q = false) (n : Nat)
    (p : Packet Json) : (d.push n p).2.queues.framesOf q = d.queues.framesOf q := by
  cases hp : p.encode with
  | error e => rw [push_of_error hp]
  | ok frame =>
    cases hs : d.services[n]? with
    | none => rw [push_of_none hs]
    | some s =>
      rw [push_of_ok hp hs, replace, PushService.framesOf_pushFrame, hclosed,
        if_neg Bool.false_ne_true, List.append_nil]

theorem length_queues_push (d : Directory) (n : Nat) (p : Packet Json) :
    (d.push n p).2.queues.length = d.queues.length := by
  cases hp : p.encode with
  | error e => rw [push_of_error hp]
  | ok frame =>
    cases hs : d.services[n]? with
    | none => rw [push_of_none hs]
    | some s =>
      rw [push_of_ok hp hs, replace, PushService.pushFrame]
      exact Queues.length_fanOut ..

/-! ## Services that are registered beforehand -/

/-- The directory in which services were registered one after the other, as
far as they could be. -/
def ofServices (services : List PushService) (queues : Queues) : Directory :=
  services.foldl (fun d s => (d.registerNew s).2) { queues := queues }

theorem indexed_registerNew (h : d.Indexed) (s : PushService) : (d.registerNew s).2.Indexed :=
  Indexed.register (Indexed.newService h s) _

theorem services_registerNew (d : Directory) (s : PushService) :
    (d.registerNew s).2.services = d.services ++ [s] :=
  services_register (d.newService s).2 d.services.length

theorem ofServices_eq (services : List PushService) (queues : Queues) :
    (ofServices services queues).Indexed ∧ (ofServices services queues).services = services ∧
      (ofServices services queues).queues = queues := by
  suffices h : ∀ d : Directory, d.Indexed →
      let d' := services.foldl (fun d s => (d.registerNew s).2) d
      d'.Indexed ∧ d'.services = d.services ++ services ∧ d'.queues = d.queues from
    h { queues := queues } nofun
  induction services with
  | nil => exact fun d hd => ⟨hd, (List.append_nil _).symm, rfl⟩
  | cons s services ih =>
    intro d hd
    obtain ⟨hindexed, hservices, hqueues⟩ := ih (d.registerNew s).2 (indexed_registerNew hd s)
    refine ⟨hindexed, ?_, hqueues.trans (queues_register _ _)⟩
    rw [List.foldl_cons, hservices, services_registerNew, List.append_assoc, List.singleton_append]

/-- Who is subscribed to none of the services is subscribed to none in the
directory. -/
theorem subscription?_ofServices {services : List PushService} {queues : Queues}
    (h : ∀ s ∈ services, s.isSubscribed id = false) (n : Nat) :
    (ofServices services queues).subscription? n id = none := by
  rw [subscription?, (ofServices_eq services queues).2.1, Option.bind_eq_none_iff]
  intro s hs
  exact Option.not_isSome_iff_eq_none.mp (by
    rw [Bool.not_eq_true]
    exact h s (List.mem_of_getElem? hs))

end Directory

end PushRelay
