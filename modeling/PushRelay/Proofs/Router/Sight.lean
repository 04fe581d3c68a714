import PushRelay.Proofs.Router.Subscriptions

/-!
# PushRelay.Proofs.Router.Sight

What a connection sees of services and queues.

A connection sees the services with itself for their only subscriber, and
its own queue (`Directory.seenBy`).  In its sight it has the number 0 and the
queue 0, whatever its number and its queue are.

Each operation that another connection asks for leaves this as it is, and
all others do in it what they do with the whole, as if the connection were
alone.  For a push this holds as long as the queue is nobody else's.
-/

namespace PushRelay

/-! ## One queue -/

namespace Queues

variable {qs : Queues} {q q' : Nat}

/-- A queue by itself; one that is not there yet is a new one. -/
def only (q : Nat) (qs : Queues) : Queues := [qs[q]?.getD {}]

theorem only_of_getElem? {qs' : Queues} (h : qs'[q]? = qs[q]?) : only q qs' = only q qs := by
  rw [only, h, only]

theorem accepts_only (h : q < qs.length) : (only q qs).accepts 0 = qs.accepts q := by
  simp [only, accepts, List.getElem?_eq_getElem h]

theorem framesOf_only (q : Nat) (qs : Queues) : (only q qs).framesOf 0 = qs.framesOf q := by
  cases h : qs[q]? with
  | none => simp [only, framesOf, h]
  | some o => simp [only, framesOf, h]

theorem only_put (h : q < qs.length) (frame : String) :
    only q (qs.put q frame) = (only q qs).put 0 frame := by
  simp [only, put, List.getElem?_eq_getElem h]

theorem only_putAll (h : q < qs.length) (frames : List String) :
    only q (qs.putAll q frames) = (only q qs).putAll 0 frames := by
  induction frames generalizing qs with
  | nil => rfl
  | cons frame frames ih =>
    have hput := @ih (qs.put q frame) (by rwa [length_put])
    rw [only_put h] at hput
    exact hput

theorem only_hangUp (h : q < qs.length) : only q (qs.hangUp q) = (only q qs).hangUp 0 := by
  simp [only, hangUp, List.getElem?_eq_getElem h]

theorem only_hangUp_of_ne (h : q' ≠ q) (qs : Queues) : only q (qs.hangUp q') = only q qs :=
  only_of_getElem? (by simp [hangUp, h])

/-- A queue gets a frame as often as it is named. -/
theorem only_fanOut {targets : List Nat} (h : q ∈ targets → q < qs.length) (frame : String) :
    only q (qs.fanOut targets frame) =
      (only q qs).fanOut (List.replicate (targets.count q) 0) frame := by
  induction targets generalizing qs with
  | nil => rfl
  | cons t targets ih =>
    have hrest := @ih (qs.put t frame) fun hmem => by
      rw [length_put]
      exact h (List.mem_cons_of_mem t hmem)
    rw [fanOut, List.foldl_cons, hrest, List.count_cons]
    by_cases ht : t = q
    · subst ht
      rw [only_put (h List.mem_cons_self), beq_self_eq_true, if_pos rfl, List.replicate_succ]
      rfl
    · rw [only_of_getElem? (getElem?_put_of_ne ht qs frame), beq_eq_false_iff_ne.mpr ht,
        if_neg Bool.false_ne_true, Nat.add_zero]

end Queues

/-! ## One subscriber -/

namespace PushService

variable {s s' t : PushService} {id id' q q' : Nat} {qs : Queues} {frame : String}

/-- The subscribers of a service to which only connection 0 may be
subscribed, with queue 0. -/
def solo (subscribed : Bool) : Table Nat Nat :=
  if subscribed then (∅ : Table Nat Nat).insert 0 0 else ∅

/-- The service as a connection sees it. -/
def seenBy (s : PushService) (id : Nat) : PushService :=
  { s.unattended with subscribers := solo (s.isSubscribed id) }

@[simp] theorem isSubscribed_seenBy (s : PushService) (id : Nat) :
    (s.seenBy id).isSubscribed 0 = s.isSubscribed id := by
  rw [isSubscribed, seenBy]
  cases s.isSubscribed id <;> rfl

theorem eq_seenBy (hrest : t.unattended = s.unattended)
    (hsubscribers : t.subscribers = solo (s.isSubscribed id)) : t = s.seenBy id := by
  have ht : t = { t.unattended with subscribers := t.subscribers } := rfl
  rw [ht, hrest, hsubscribers, seenBy]

theorem seenBy_eq (hrest : s'.unattended = s.unattended)
    (hsame : s'.isSubscribed id = s.isSubscribed id) : s'.seenBy id = s.seenBy id := by
  rw [seenBy, hrest, hsame, seenBy]

/-- A new service looks the same to all. -/
theorem seenBy_of_new (h : s.subscribers = ∅) (id : Nat) : s.seenBy id = s := by
  have hnone : s.isSubscribed id = false := by
    rw [isSubscribed, h]
    rfl
  exact (eq_seenBy rfl (by rw [h, hnone]; rfl)).symm

/-! ### Subscribing -/

theorem isSubscribed_subscribe_of_ne (h : id ≠ id') (s : PushService) (q' : Nat) (qs : Queues) :
    (s.subscribe id' q' qs).2.1.isSubscribed id = s.isSubscribed id := by
  rw [isSubscribed, Table.contains, find?_subscribe, if_neg fun hboth => h hboth.1, isSubscribed,
    Table.contains]

theorem seenBy_subscribe (h : q < qs.length) (s : PushService) (id : Nat) :
    (s.subscribe id q qs).2.1.seenBy id =
        ((s.seenBy id).subscribe 0 0 (Queues.only q qs)).2.1 ∧
      Queues.only q (s.subscribe id q qs).2.2 =
        ((s.seenBy id).subscribe 0 0 (Queues.only q qs)).2.2 := by
  have hhistory : (s.seenBy id).history = s.history := rfl
  unfold subscribe
  rw [isSubscribed_seenBy, hhistory, Queues.accepts_only h]
  split
  · exact ⟨rfl, rfl⟩
  · next hnew =>
    split
    · exact ⟨rfl, rfl⟩
    · refine ⟨Eq.symm (eq_seenBy rfl ?_), Queues.only_putAll h s.history⟩
      rw [Bool.not_eq_true] at hnew
      have hnow : ({ s with subscribers := s.subscribers.insert id q } : PushService).isSubscribed
          id = true := by
        simp [isSubscribed]
      rw [hnow, seenBy, hnew]
      rfl

theorem seenBy_unsubscribe (s : PushService) (id : Nat) :
    (s.unsubscribe id).2.seenBy id = ((s.seenBy id).unsubscribe 0).2 := by
  refine Eq.symm (eq_seenBy rfl ?_)
  have hnow : (s.unsubscribe id).2.isSubscribed id = false := by
    rw [isSubscribed, Table.contains, find?_unsubscribe, if_pos rfl, Option.isSome_none]
  rw [hnow, unsubscribe, seenBy]
  cases s.isSubscribed id <;> rfl

theorem isSubscribed_unsubscribe_of_ne (h : id ≠ id') (s : PushService) :
    (s.unsubscribe id').2.isSubscribed id = s.isSubscribed id := by
  rw [isSubscribed, Table.contains, find?_unsubscribe, if_neg h, isSubscribed, Table.contains]

/-! ### Pushing -/

theorem values_solo (subscribed : Bool) :
    (solo subscribed).values = List.replicate (if subscribed = true then 1 else 0) 0 := by
  cases subscribed <;> rfl

theorem filter_solo (subscribed : Bool) (keep : Nat → Bool) :
    ((solo subscribed).filter fun _ q => keep q) = solo (subscribed && keep 0) := by
  apply Table.ext_find?
  intro id
  rw [Table.find?_filter]
  cases subscribed with
  | false => rfl
  | true =>
    by_cases hid : id = 0
    · cases hkeep : keep 0 <;> simp [solo, hid, hkeep, Option.filter]
    · cases hkeep : keep 0 <;> simp [solo, hid]

/-- Who is subscribed after a push is who was, if the queue took it. -/
theorem isSubscribed_pushFrame (hown : ∀ q', s.subscribers.find? id = some q' → q' = q)
    (frame : String) (qs : Queues) :
    (s.pushFrame frame qs).1.isSubscribed id = (s.isSubscribed id && qs.accepts q) := by
  rw [isSubscribed, Table.contains, find?_pushFrame, isSubscribed, Table.contains]
  cases hq : s.subscribers.find? id with
  | none => rfl
  | some q' =>
    rw [hown q' hq]
    cases hopen : qs.accepts q <;> simp [Option.filter, hopen]

/-- Whose queue is only its own sees a push as if it were alone. -/
theorem seenBy_pushFrame
    (hown : ∀ id' q', s.subscribers.find? id' = some q' → (q' = q ↔ id' = id))
    (hlt : s.isSubscribed id = true → q < qs.length) (frame : String) :
    (s.pushFrame frame qs).1.seenBy id =
        ((s.seenBy id).pushFrame frame (Queues.only q qs)).1 ∧
      Queues.only q (s.pushFrame frame qs).2 =
        ((s.seenBy id).pushFrame frame (Queues.only q qs)).2 := by
  have hsolo : (s.seenBy id).subscribers = solo (s.isSubscribed id) := rfl
  constructor
  · refine Eq.symm (eq_seenBy ?_ ?_)
    · rw [unattended_pushFrame, unattended_pushFrame]
      rfl
    · rw [isSubscribed_pushFrame fun q' hq => (hown id q' hq).mpr rfl]
      simp only [pushFrame, subscribers_remember]
      rw [hsolo, filter_solo]
      cases hsub : s.isSubscribed id with
      | false => rfl
      | true => rw [Queues.accepts_only (hlt hsub)]
  · have hmem : q ∈ s.subscribers.values → q < qs.length := by
      intro hmem
      obtain ⟨id', hid⟩ := Table.mem_values_iff.mp hmem
      rw [(hown id' q hid).mp rfl] at hid
      exact hlt (isSubscribed_iff.mpr ⟨q, hid⟩)
    simp only [pushFrame, subscribers_remember]
    rw [hsolo, values_solo, ← count_values hown]
    exact Queues.only_fanOut hmem frame

end PushService

namespace Directory

variable {d : Directory} {n id id' q q' : Nat} {s s' : PushService}

/-- The services and the queues as a connection with its queue sees them. -/
def seenBy (d : Directory) (id q : Nat) : Directory where
  services := d.services.map fun s => s.seenBy id
  index := d.index
  queues := d.queues.only q

theorem services_seenBy (d : Directory) (n id q : Nat) :
    (d.seenBy id q).services[n]? = d.services[n]?.map fun s => s.seenBy id :=
  List.getElem?_map

theorem isSubscribed_seenBy (d : Directory) (n id q : Nat) :
    (d.seenBy id q).isSubscribed n 0 = d.isSubscribed n id := by
  rw [isSubscribed, services_seenBy, isSubscribed]
  cases d.services[n]? with
  | none => rfl
  | some s => exact PushService.isSubscribed_seenBy s id

theorem unattended_seenBy (d : Directory) (id q : Nat) :
    (d.seenBy id q).unattended = d.unattended := by
  rw [unattended, seenBy, List.map_map, unattended]
  rfl

/-- Another service looks as its view does. -/
theorem seenBy_replace {seen : PushService} (hservice : s'.seenBy id = seen) {qs queues : Queues}
    (hqueue : qs.only q = queues) (d : Directory) (n : Nat) :
    (d.replace n s' qs).seenBy id q = (d.seenBy id q).replace n seen queues := by
  rw [seenBy, replace, List.map_set, hservice, hqueue, replace, seenBy]

theorem seenBy_replace_of_eq (hs : d.services[n]? = some s) (hservice : s'.seenBy id = s.seenBy id)
    {qs : Queues} (hqueue : qs.only q = d.queues.only q) :
    (d.replace n s' qs).seenBy id q = d.seenBy id q := by
  rw [seenBy_replace hservice hqueue]
  apply replace_self
  rw [services_seenBy, hs, Option.map_some]

/-! ### What others do -/

theorem seenBy_subscribeTo_of_ne (hid : id ≠ id') (hq : q' ≠ q) (d : Directory) (n : Nat) :
    (d.subscribeTo n id' q').2.seenBy id q = d.seenBy id q := by
  cases hs : d.services[n]? with
  | none => simp only [subscribeTo, hs]
  | some s =>
    rw [subscribeTo_of_some hs]
    apply seenBy_replace_of_eq hs
    · exact PushService.seenBy_eq (s.unattended_subscribe id' q' d.queues)
        (PushService.isSubscribed_subscribe_of_ne hid s q' d.queues)
    · exact Queues.only_of_getElem? (PushService.getElem?_queues_subscribe hq s id' d.queues)

theorem seenBy_unsubscribeFrom_of_ne (hid : id ≠ id') (d : Directory) (n q : Nat) :
    (d.unsubscribeFrom n id').2.seenBy id q = d.seenBy id q := by
  cases hs : d.services[n]? with
  | none => simp only [unsubscribeFrom, hs]
  | some s =>
    rw [unsubscribeFrom_of_some hs]
    apply seenBy_replace_of_eq hs
    · exact PushService.seenBy_eq (s.unattended_unsubscribe id')
        (PushService.isSubscribed_unsubscribe_of_ne hid s)
    · rfl

theorem seenBy_controlAt_of_ne (hid : id ≠ id') (hq : q' ≠ q) (d : Directory) (n : Nat)
    (control : Control) : (d.controlAt n id' q' control).seenBy id q = d.seenBy id q := by
  cases control with
  | subscribe => exact seenBy_subscribeTo_of_ne hid hq d n
  | unsubscribe => exact seenBy_unsubscribeFrom_of_ne hid d n q

/-! ### What a connection does itself -/

theorem seenBy_subscribeTo (h : q < d.queues.length) (n id : Nat) :
    (d.subscribeTo n id q).2.seenBy id q = ((d.seenBy id q).subscribeTo n 0 0).2 := by
  cases hs : d.services[n]? with
  | none => simp only [subscribeTo, services_seenBy, hs, Option.map_none]
  | some s =>
    have hseen : (d.seenBy id q).services[n]? = some (s.seenBy id) := by
      rw [services_seenBy, hs, Option.map_some]
    obtain ⟨hservice, hqueue⟩ := PushService.seenBy_subscribe h s id
    rw [subscribeTo_of_some hs, subscribeTo_of_some hseen]
    exact seenBy_replace hservice hqueue d n

theorem seenBy_unsubscribeFrom (d : Directory) (n id q : Nat) :
    (d.unsubscribeFrom n id).2.seenBy id q = ((d.seenBy id q).unsubscribeFrom n 0).2 := by
  cases hs : d.services[n]? with
  | none => simp only [unsubscribeFrom, services_seenBy, hs, Option.map_none]
  | some s =>
    have hseen : (d.seenBy id q).services[n]? = some (s.seenBy id) := by
      rw [services_seenBy, hs, Option.map_some]
    rw [unsubscribeFrom_of_some hs, unsubscribeFrom_of_some hseen]
    exact seenBy_replace (s.seenBy_unsubscribe id) rfl d n

theorem seenBy_unsubscribeAll (d : Directory) (id q : Nat) :
    (d.unsubscribeAll id).seenBy id q = (d.seenBy id q).unsubscribeAll 0 := by
  unfold unsubscribeAll
  change _ = d.index.values.foldl _ _
  generalize d.index.values = ns
  induction ns generalizing d with
  | nil => rfl
  | cons n ns ih => rw [List.foldl_cons, ih, seenBy_unsubscribeFrom, List.foldl_cons]

/-- What a connection asks for looks to it as if it were alone. -/
theorem seenBy_obey (h : q < d.queues.length) (id : Nat) (request : Option (Control × String)) :
    (d.obey id q request).seenBy id q = (d.seenBy id q).obey 0 0 request := by
  unfold obey
  split
  · rfl
  · next control service =>
    have hnumber : (d.seenBy id q).number? service = d.number? service := rfl
    rw [hnumber]
    split
    · rfl
    · next n _ =>
      cases control with
      | subscribe => exact seenBy_subscribeTo h n id
      | unsubscribe => exact seenBy_unsubscribeFrom d n id q

theorem seenBy_hangUp (h : q < d.queues.length) (id : Nat) :
    (d.hangUp q).seenBy id q = (d.seenBy id q).hangUp 0 := by
  rw [hangUp, seenBy, Queues.only_hangUp h]
  rfl

theorem seenBy_hangUp_of_ne (h : q' ≠ q) (d : Directory) (id : Nat) :
    (d.hangUp q').seenBy id q = d.seenBy id q := by
  rw [hangUp, seenBy, Queues.only_hangUp_of_ne h, seenBy]

/-! ### What becomes of the services -/

/-- A push looks to a connection like a push to it alone. -/
theorem seenBy_push (hown : ∀ id' q', d.subscription? n id' = some q' → (q' = q ↔ id' = id))
    (hlt : d.isSubscribed n id = true → q < d.queues.length) (p : Packet Json) :
    (d.push n p).2.seenBy id q = ((d.seenBy id q).push n p).2 := by
  cases hp : p.encode with
  | error e => rw [push_of_error hp, push_of_error hp]
  | ok frame =>
    cases hs : d.services[n]? with
    | none =>
      rw [push_of_none hs, push_of_none]
      rw [services_seenBy, hs, Option.map_none]
    | some s =>
      have hseen : (d.seenBy id q).services[n]? = some (s.seenBy id) := by
        rw [services_seenBy, hs, Option.map_some]
      have hsubscribed : d.isSubscribed n id = s.isSubscribed id := by
        rw [isSubscribed, hs, Option.any_some]
      rw [hsubscribed] at hlt
      obtain ⟨hservice, hqueue⟩ := PushService.seenBy_pushFrame
        (fun id' q' hq => hown id' q' ((subscription?_of_services hs id').trans hq)) hlt frame
      rw [push_of_ok hp hs, push_of_ok hp hseen]
      exact seenBy_replace hservice hqueue d n

theorem seenBy_newService (hnew : s.subscribers = ∅) (d : Directory) (id q : Nat) :
    (d.newService s).2.seenBy id q = ((d.seenBy id q).newService s).2 := by
  rw [newService, seenBy, List.map_append, List.map_singleton, PushService.seenBy_of_new hnew]
  rfl

theorem seenBy_register (d : Directory) (n id q : Nat) :
    (d.register n).2.seenBy id q = ((d.seenBy id q).register n).2 := by
  unfold register
  rw [services_seenBy]
  cases d.services[n]? with
  | none => rfl
  | some s =>
    have hnumber : (d.seenBy id q).number? (s.seenBy id).name = d.number? s.name := rfl
    simp only [Option.map_some, hnumber]
    split
    · rfl
    · rfl

/-- A queue looks new before it is there, and is new then. -/
theorem seenBy_newQueue (d : Directory) (id q : Nat) :
    d.newQueue.2.seenBy id q = d.seenBy id q := by
  have hqueue : d.newQueue.2.queues.only q = d.queues.only q := by
    have hnew : d.newQueue.2.queues = d.queues ++ [({} : Outgoing)] := rfl
    rw [Queues.only, hnew, Queues.only]
    by_cases hlt : q < d.queues.length
    · rw [List.getElem?_append_left hlt]
    · have hle : d.queues.length ≤ q := Nat.le_of_not_lt hlt
      rw [List.getElem?_append_right hle, List.getElem?_eq_none hle]
      cases q - d.queues.length <;> rfl
  rw [seenBy, hqueue, seenBy]
  rfl

end Directory

end PushRelay
