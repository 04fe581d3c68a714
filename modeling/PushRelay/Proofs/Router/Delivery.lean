import PushRelay.Proofs.Router.Pushing

/-!
# PushRelay.Proofs.Router.Delivery

What the subscribers of a service get in a run of pushes, subscriptions,
their ends, and queues being hung up, in any order.

Each connection has a queue of its own, which `queueOf` tells.  The queues
are given with the service at the start and may be anything, so also hung
up already.

A run carries along the frames that it has pushed: the history is always
the last of them (`Sound`), so a connection that subscribes gets the end of
that list and then goes on with it.
-/

namespace PushRelay

/-- A service and the queues that it pushes to. -/
structure Feed where
  service : PushService
  queues : Queues

namespace Feed

/-- What happens to a service and its queues. -/
inductive Action where
  | push (p : Packet Json)
  | subscribe (id : Nat)
  | unsubscribe (id : Nat)
  | hangUp (id : Nat)

/-- The frame of an action, if it is a push that can be encoded. -/
def Action.frames : Action → List String
  | .push p => p.encode.toOption.toList
  | .subscribe _ | .unsubscribe _ | .hangUp _ => []

/-- The frames that a run pushes, in their order. -/
def pushed (acts : List Action) : List String := acts.flatMap Action.frames

theorem pushed_cons (a : Action) (acts : List Action) :
    pushed (a :: acts) = a.frames ++ pushed acts :=
  List.flatMap_cons

theorem pushed_append (acts more : List Action) :
    pushed (acts ++ more) = pushed acts ++ pushed more :=
  List.flatMap_append

section Runs

variable (queueOf : Nat → Nat)

/-- Carries out an action. -/
def act (f : Feed) : Action → Feed
  | .push p => ⟨(f.service.push p f.queues).2.1, (f.service.push p f.queues).2.2⟩
  | .subscribe id =>
    let result := f.service.subscribe id (queueOf id) f.queues
    ⟨result.2.1, result.2.2⟩
  | .unsubscribe id => { f with service := (f.service.unsubscribe id).2 }
  | .hangUp id => { f with queues := f.queues.hangUp (queueOf id) }

/-- The service and its queues after a run of actions. -/
def after (f : Feed) (acts : List Action) : Feed := acts.foldl (act queueOf) f

@[simp] theorem after_nil (f : Feed) : f.after queueOf [] = f := rfl

@[simp] theorem after_cons (f : Feed) (a : Action) (acts : List Action) :
    f.after queueOf (a :: acts) = (f.act queueOf a).after queueOf acts := rfl

end Runs

theorem act_push_of_error {queueOf : Nat → Nat} {p : Packet Json} {e : RelayError}
    (h : p.encode = .error e) (f : Feed) : f.act queueOf (.push p) = f := by
  simp only [act, PushService.push_of_error h]

theorem act_push_of_ok {queueOf : Nat → Nat} {p : Packet Json} {frame : String}
    (h : p.encode = .ok frame) (f : Feed) :
    f.act queueOf (.push p) =
      ⟨(f.service.pushFrame frame f.queues).1, (f.service.pushFrame frame f.queues).2⟩ := by
  simp only [act, PushService.push_of_ok h]

theorem frames_of_error {p : Packet Json} {e : RelayError} (h : p.encode = .error e) :
    (Action.push p).frames = [] := by
  rw [Action.frames, h]
  rfl

theorem frames_of_ok {p : Packet Json} {frame : String} (h : p.encode = .ok frame) :
    (Action.push p).frames = [frame] := by
  rw [Action.frames, h]
  rfl

variable {queueOf : Nat → Nat} {f : Feed} {a : Action} {frames : List String} {id : Nat}

/-! ## What every action keeps -/

@[simp] theorem historyLength_act (f : Feed) (a : Action) :
    (f.act queueOf a).service.historyLength = f.service.historyLength := by
  cases a with
  | push p =>
    cases h : p.encode with
    | error e => rw [act_push_of_error h]
    | ok frame => rw [act_push_of_ok h, PushService.historyLength_pushFrame]
  | subscribe id => exact PushService.historyLength_subscribe ..
  | unsubscribe id => rfl
  | hangUp id => rfl

/-- A queue that takes frames has always taken them. -/
theorem accepts_of_act {q : Nat} (h : (f.act queueOf a).queues.accepts q = true) :
    f.queues.accepts q = true := by
  cases a with
  | push p =>
    cases hp : p.encode with
    | error e =>
      rw [act_push_of_error hp] at h
      exact h
    | ok frame =>
      rw [act_push_of_ok hp, PushService.accepts_pushFrame] at h
      exact h
  | subscribe id =>
    rw [act, PushService.accepts_subscribe] at h
    exact h
  | unsubscribe id => exact h
  | hangUp id =>
    rw [act, Queues.accepts_hangUp, Bool.and_eq_true_iff] at h
    exact h.1

/-- The service remembers the last of the frames that were pushed, and
knows every subscriber by its own queue. -/
structure Sound (queueOf : Nat → Nat) (frames : List String) (f : Feed) : Prop where
  history : f.service.history = frames.rtake f.service.historyLength
  owned : ∀ id q, f.service.subscribers.find? id = some q → q = queueOf id

/-- An action keeps the history what the pushes have made it, and every
subscriber its own queue. -/
theorem sound_act (h : Sound queueOf frames f) (a : Action) :
    Sound queueOf (frames ++ a.frames) (f.act queueOf a) := by
  cases a with
  | push p =>
    cases hp : p.encode with
    | error e =>
      rw [act_push_of_error hp, frames_of_error hp, List.append_nil]
      exact h
    | ok frame =>
      rw [act_push_of_ok hp, frames_of_ok hp]
      constructor
      · have hhistory := PushService.history_remember h.history frame
        rw [PushService.history_pushFrame, PushService.historyLength_pushFrame]
        exact hhistory
      · intro id q hq
        rw [PushService.find?_pushFrame, Option.filter_eq_some_iff] at hq
        exact h.owned id q hq.1
  | subscribe id =>
    rw [Action.frames, List.append_nil]
    constructor
    · have hhistory := h.history
      simp only [act, PushService.history_subscribe, PushService.historyLength_subscribe]
      exact hhistory
    · intro id' q hq
      rw [act, PushService.find?_subscribe] at hq
      split at hq
      · next hnew =>
        have hown : queueOf id = q := Option.some.inj hq
        rw [hnew.1, hown]
      · exact h.owned id' q hq
  | unsubscribe id =>
    rw [Action.frames, List.append_nil]
    constructor
    · exact h.history
    · intro id' q hq
      rw [act, PushService.find?_unsubscribe] at hq
      split at hq
      · contradiction
      · exact h.owned id' q hq
  | hangUp id =>
    rw [Action.frames, List.append_nil]
    exact ⟨h.history, h.owned⟩

/-- So does a run. -/
theorem Sound.after (h : Sound queueOf frames f) (acts : List Action) :
    Sound queueOf (frames ++ pushed acts) (f.after queueOf acts) := by
  induction acts generalizing f frames with
  | nil =>
    rw [after_nil, pushed, List.flatMap_nil, List.append_nil]
    exact h
  | cons a acts ih =>
    rw [after_cons, pushed_cons, ← List.append_assoc]
    exact ih (sound_act h a)

/-- A new service has nothing to remember and no subscribers. -/
theorem sound_of_ofName (queueOf : Nat → Nat) {name : String} {length : Nat} {s : PushService}
    (h : PushService.ofName name length = .ok s) (qs : Queues) :
    Sound queueOf [] ⟨s, qs⟩ ∧ s.historyLength = length := by
  obtain ⟨hroom, rfl⟩ := PushService.ofName_eq_ok_iff.mp h
  have hhistory : ([] : List String) = ([] : List String).rtake length :=
    (List.rtake_nil length).symm
  have howned : ∀ id q, (∅ : Table Nat Nat).find? id = some q → q = queueOf id := by
    intro id q hq
    rw [Table.find?_empty] at hq
    contradiction
  exact ⟨⟨hhistory, howned⟩, rfl⟩

theorem historyLength_after (f : Feed) (acts : List Action) :
    (f.after queueOf acts).service.historyLength = f.service.historyLength := by
  induction acts generalizing f with
  | nil => rfl
  | cons a acts ih => rw [after_cons, ih, historyLength_act]

theorem accepts_of_after {q : Nat} {acts : List Action}
    (h : (f.after queueOf acts).queues.accepts q = true) : f.queues.accepts q = true := by
  induction acts generalizing f with
  | nil => exact h
  | cons a acts ih => exact accepts_of_act (ih h)

/-! ## One push -/

theorem Sound.values_eq (h : Sound queueOf frames f) :
    f.service.subscribers.values = f.service.subscribers.keys.map queueOf := by
  rw [Table.values, Table.keys, List.map_map]
  apply List.map_congr_left
  intro e he
  exact h.owned e.1 e.2 (Table.mem_entries_iff.mp he)

/-- No queue is that of two subscribers. -/
theorem Sound.count_values (h : Sound queueOf frames f) (hq : Function.Injective queueOf)
    (id : Nat) :
    f.service.subscribers.values.count (queueOf id) =
      if f.service.isSubscribed id = true then 1 else 0 := by
  apply PushService.count_values
  intro id' q hfind
  rw [h.owned id' q hfind]
  exact hq.eq_iff

theorem Sound.count_values_eq_zero (h : Sound queueOf frames f) {q : Nat}
    (hnone : ∀ id, f.service.isSubscribed id = true → q ≠ queueOf id) :
    f.service.subscribers.values.count q = 0 := by
  rw [h.values_eq, List.count_eq_zero]
  intro hmem
  obtain ⟨id, hid, hown⟩ := List.mem_map.mp hmem
  exact hnone id (Table.contains_iff_mem_keys.mpr hid) hown.symm

/-- Those who are left after a push are the subscribers with an open
queue. -/
theorem Sound.isSubscribed_pushFrame (h : Sound queueOf frames f) (frame : String) (id : Nat) :
    (f.service.pushFrame frame f.queues).1.isSubscribed id = true ↔
      f.service.isSubscribed id = true ∧ f.queues.accepts (queueOf id) = true := by
  rw [PushService.isSubscribed_iff, PushService.isSubscribed_iff]
  simp only [PushService.find?_pushFrame, Option.filter_eq_some_iff]
  constructor
  · intro hleft
    obtain ⟨q, hfind, hopen⟩ := hleft
    have hown := h.owned id q hfind
    rw [hown] at hfind hopen
    exact ⟨⟨queueOf id, hfind⟩, hopen⟩
  · intro hboth
    obtain ⟨⟨q, hfind⟩, hopen⟩ := hboth
    rw [← h.owned id q hfind] at hopen
    exact ⟨q, hfind, hopen⟩

/-- What a push does: the frame is put once on the open queue of each
subscriber and on no other, and the subscribers whose queue is open are
left. -/
structure Delivered (queueOf : Nat → Nat) (frame : String) (f f' : Feed) : Prop where
  once : ∀ id, f.service.isSubscribed id = true → f.queues.accepts (queueOf id) = true →
    f'.queues.framesOf (queueOf id) = f.queues.framesOf (queueOf id) ++ [frame]
  others : ∀ q,
    (∀ id, f.service.isSubscribed id = true → q = queueOf id → f.queues.accepts q = false) →
    f'.queues.framesOf q = f.queues.framesOf q
  left : ∀ id, f'.service.isSubscribed id = true ↔
    f.service.isSubscribed id = true ∧ f.queues.accepts (queueOf id) = true
  accepts : ∀ q, f'.queues.accepts q = f.queues.accepts q

/-- A push reaches each subscriber whose queue is open once, and nobody else.
-/
theorem Sound.delivered (h : Sound queueOf frames f) (hq : Function.Injective queueOf)
    {p : Packet Json} {frame : String} (hp : p.encode = .ok frame) :
    Delivered queueOf frame f (f.act queueOf (.push p)) := by
  rw [act_push_of_ok hp]
  constructor
  case once =>
    intro id hsub hopen
    rw [PushService.framesOf_pushFrame, if_pos hopen, h.count_values hq, if_pos hsub,
      List.replicate_one]
  case others =>
    intro q hnone
    rw [PushService.framesOf_pushFrame]
    cases hopen : f.queues.accepts q with
    | false => simp
    | true =>
      have hcount : f.service.subscribers.values.count q = 0 := by
        apply h.count_values_eq_zero
        intro id hsub hown
        have hclosed := hnone id hsub hown
        rw [hopen] at hclosed
        cases hclosed
      simp [hcount]
  case left =>
    intro id
    exact h.isSubscribed_pushFrame frame id
  case accepts =>
    intro q
    rw [PushService.accepts_pushFrame]

/-! ## A subscription from its start to its end -/

/-- An action gives a subscriber whose queue stays open the frame that it
pushes, and nothing else. -/
theorem Sound.framesOf_act (h : Sound queueOf frames f) (hq : Function.Injective queueOf)
    (hsub : f.service.isSubscribed id = true)
    (hopen : (f.act queueOf a).queues.accepts (queueOf id) = true) :
    (f.act queueOf a).queues.framesOf (queueOf id) =
      f.queues.framesOf (queueOf id) ++ a.frames := by
  have hbefore := accepts_of_act hopen
  cases a with
  | push p =>
    cases hp : p.encode with
    | error e => rw [act_push_of_error hp, frames_of_error hp, List.append_nil]
    | ok frame =>
      rw [frames_of_ok hp]
      exact (h.delivered hq hp).once id hsub hbefore
  | subscribe id' =>
    have hold : ¬ (queueOf id' = queueOf id ∧
        (f.service.subscribe id' (queueOf id') f.queues).1 = true) := by
      intro hnew
      obtain ⟨hown, hnew⟩ := hnew
      rw [hq hown, PushService.subscribe_of_subscribed hsub] at hnew
      exact Bool.false_ne_true hnew
    rw [act, PushService.framesOf_subscribe, if_neg hold, Action.frames]
  | unsubscribe id' => rw [act, Action.frames, List.append_nil]
  | hangUp id' => rw [act, Queues.framesOf_hangUp, Action.frames, List.append_nil]

/-- So a run gives it all that is pushed, in that order, if the
subscription lasts as long. -/
theorem Sound.framesOf_after (h : Sound queueOf frames f) (hq : Function.Injective queueOf)
    {acts : List Action}
    (hsub : ∀ m b, m ++ [b] <+: acts → (f.after queueOf m).service.isSubscribed id = true)
    (hopen : (f.after queueOf acts).queues.accepts (queueOf id) = true) :
    (f.after queueOf acts).queues.framesOf (queueOf id) =
      f.queues.framesOf (queueOf id) ++ pushed acts := by
  induction acts generalizing f frames with
  | nil => rw [after_nil, pushed, List.flatMap_nil, List.append_nil]
  | cons a acts ih =>
    have hnow : f.service.isSubscribed id = true := hsub [] a ⟨acts, rfl⟩
    have hlater : ∀ m b, m ++ [b] <+: acts →
        ((f.act queueOf a).after queueOf m).service.isSubscribed id = true := by
      intro m b hm
      exact hsub (a :: m) b (List.cons_prefix_cons.mpr ⟨rfl, hm⟩)
    rw [after_cons, pushed_cons, ih (sound_act h a) hlater hopen,
      h.framesOf_act hq hnow (accepts_of_after hopen), List.append_assoc]

/-! ## Any run -/

/-- What a service gives its subscribers, seen from the end `f` of a run of
`acts`: whatever may be done next. -/
structure Delivery (queueOf : Nat → Nat) (length : Nat) (acts : List Action) (f : Feed) :
    Prop where
  /-- the history is the last of what was pushed -/
  history : f.service.history = (pushed acts).rtake length
  history_length : f.service.history.length = min (pushed acts).length length
  /-- a packet that is too large changes nothing -/
  tooLarge : ∀ p : Packet Json, maxFrameSize < p.text.utf8ByteSize →
    f.service.push p f.queues =
      (.error (.frameTooLarge p.text.utf8ByteSize maxFrameSize), f.service, f.queues)
  /-- who subscribes again gets nothing -/
  again : ∀ id, f.service.isSubscribed id = true →
    f.service.subscribe id (queueOf id) f.queues = (false, f.service, f.queues)
  /-- who subscribes gets the history, and then what is pushed as long as
  the subscription lasts -/
  period : ∀ id mid, (f.service.subscribe id (queueOf id) f.queues).1 = true →
    (∀ m b, m ++ [b] <+: mid →
      (f.after queueOf (.subscribe id :: m)).service.isSubscribed id = true) →
    (f.after queueOf (.subscribe id :: mid)).queues.accepts (queueOf id) = true →
    (f.after queueOf (.subscribe id :: mid)).queues.framesOf (queueOf id) =
      f.queues.framesOf (queueOf id) ++ (f.service.history ++ pushed mid)
  /-- the two together are a stretch of all that is ever pushed, without a
  gap -/
  stretch : ∀ mid, f.service.history ++ pushed mid =
    (pushed (acts ++ mid)).drop ((pushed acts).length - length)
  /-- every other packet is pushed, and the subscribers that are left are
  counted -/
  push : ∀ p : Packet Json, p.text.utf8ByteSize ≤ maxFrameSize →
    (f.service.push p f.queues).1 =
      .ok (f.act queueOf (.push p)).service.subscribers.size ∧
    Delivered queueOf p.text f (f.act queueOf (.push p))

/-- A service delivers what is pushed to each of its subscribers. -/
theorem delivery_after {name : String} {length : Nat} {s : PushService}
    (hs : PushService.ofName name length = .ok s) (hq : Function.Injective queueOf) (qs : Queues)
    (acts : List Action) : Delivery queueOf length acts (after queueOf ⟨s, qs⟩ acts) := by
  obtain ⟨hstart, hlength⟩ := sound_of_ofName queueOf hs qs
  have h : Sound queueOf (pushed acts) (after queueOf ⟨s, qs⟩ acts) := hstart.after acts
  have hhistory : (after queueOf ⟨s, qs⟩ acts).service.history = (pushed acts).rtake length := by
    rw [h.history, historyLength_after, hlength]
  generalize after queueOf ⟨s, qs⟩ acts = f at h hhistory
  constructor
  case history => exact hhistory
  case history_length =>
    rw [hhistory, List.rtake, List.length_drop]
    omega
  case tooLarge =>
    intro p hp
    exact PushService.push_of_error (Packet.encode_eq_error_iff.mpr ⟨hp, rfl⟩) f.service f.queues
  case again =>
    intro id hsub
    exact PushService.subscribe_of_subscribed hsub (queueOf id) f.queues
  case period =>
    intro id mid hnew hsub hopen
    have hreplay : (f.act queueOf (.subscribe id)).queues.framesOf (queueOf id) =
        f.queues.framesOf (queueOf id) ++ f.service.history := by
      rw [act, PushService.framesOf_subscribe, if_pos ⟨rfl, hnew⟩]
    have hlive := (sound_act h (.subscribe id)).framesOf_after hq hsub hopen
    rw [after_cons, hlive, hreplay, List.append_assoc]
  case stretch =>
    intro mid
    have hlast : (pushed acts).length - length ≤ (pushed acts).length := Nat.sub_le ..
    rw [hhistory, pushed_append, List.drop_append_of_le_length hlast, List.rtake]
  case push =>
    intro p hp
    have hencode : p.encode = .ok p.text := Packet.encode_eq_ok_iff.mpr ⟨rfl, hp⟩
    constructor
    · rw [act_push_of_ok hencode, PushService.push_of_ok hencode]
    · exact h.delivered hq hencode

/-- Two of three frames are replayed, and the fourth follows. -/
theorem delivery_after_replay :
    let packet (data : Json) : Packet Json := ⟨"connections", data, by decide⟩
    let s : PushService := { name := "connections", historyLength := 2 }
    let acts : List Action := [.push (packet .null), .push (packet (.bool true)),
      .push (packet (.array [])), .subscribe 0, .push (packet (.bool false))]
    PushService.ofName "connections" 2 = .ok s ∧ Function.Injective Nat.succ ∧
    Delivery Nat.succ 2 acts (after Nat.succ ⟨s, [{}, {}]⟩ acts) ∧
    (after Nat.succ ⟨s, [{}, {}]⟩ acts).queues.framesOf 1 =
      ["\x7b\"name\":\"connections\",\"data\":true\x7d",
        "\x7b\"name\":\"connections\",\"data\":[]\x7d",
        "\x7b\"name\":\"connections\",\"data\":false\x7d"] := by
  intro packet s acts
  have hs : PushService.ofName "connections" 2 = .ok s := by rfl
  have hq : Function.Injective Nat.succ := Nat.succ_injective
  exact ⟨hs, hq, delivery_after hs hq _ acts, by decide +kernel⟩

end Feed

end PushRelay
