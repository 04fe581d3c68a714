import PushRelay.Proofs.Connection.Step

/-!
# PushRelay.Proofs.Connection.Announcements

What a listener is told of its transports besides their states: that one
has opened, was closed, or has failed.

Only the handling of an event tells of that, of one event once, and after
the state of its transport if the listener copes with that
(`Connection.announced`).  The queue of events is left as it is meanwhile,
so `Announces` keeps account of both.
-/

namespace PushRelay

/-- The listener is told of more than a state. -/
def Entry.isAnnouncement : Entry → Bool
  | .told _ (.state _) _ => false
  | .told _ _ _ => true
  | _ => false

/-- What the listener was told besides states. -/
def announcements (journal : List Entry) : List Entry := journal.filter Entry.isAnnouncement

namespace Connection

variable {γ τ η ℓ : Type} {c d e : Connection γ τ η ℓ} {news more : List Entry}

/-- From `c` to `d` the listener was told the news besides states, and no
event was put on the queue or taken off it. -/
structure Announces (news : List Entry) (c d : Connection γ τ η ℓ) : Prop where
  queue : d.queue = c.queue
  journal : announcements d.journal = announcements c.journal ++ news

theorem Announces.refl (c : Connection γ τ η ℓ) : Announces [] c c :=
  ⟨rfl, (List.append_nil _).symm⟩

/-- Announcements add up along a run. -/
theorem Announces.trans (h : Announces news c d) (h' : Announces more d e) :
    Announces (news ++ more) c e :=
  ⟨h'.queue.trans h.queue, by rw [h'.journal, h.journal, List.append_assoc]⟩

/-- Nothing is told before. -/
theorem Announces.after_silence (h : Announces [] c d) (h' : Announces news d e) :
    Announces news c e :=
  h.trans h'

/-- Nothing is told afterwards. -/
theorem Announces.then_silence (h : Announces news c d) (h' : Announces [] d e) :
    Announces news c e :=
  List.append_nil news ▸ h.trans h'

/-- One entry makes at most one announcement. -/
theorem Announces.of_entry {x : Entry} (hqueue : d.queue = c.queue)
    (hjournal : d.journal = c.journal ++ [x]) :
    Announces ([x].filter Entry.isAnnouncement) c d :=
  ⟨hqueue, by rw [hjournal, announcements, List.filter_append]; rfl⟩

/-- An entry that tells of no more than a state is none to account for. -/
theorem Announces.of_silent_entry {x : Entry} (hx : x.isAnnouncement = false)
    (hqueue : d.queue = c.queue) (hjournal : d.journal = c.journal ++ [x]) : Announces [] c d := by
  have hentry := Announces.of_entry hqueue hjournal
  rwa [List.filter_cons_of_neg (Bool.eq_false_iff.mp hx)] at hentry

variable [Transport τ]

/-- To send announces nothing. -/
theorem announces_sendOn (c : Connection γ τ η ℓ) (on : Option Nat) (payload : Outbound) :
    Announces [] c (c.sendOn on payload).2 := by
  unfold sendOn
  split
  · exact .refl c
  · split
    · exact .refl c
    · split
      · exact .refl c
      · split
        · exact .refl c
        · exact .of_silent_entry rfl rfl rfl

/-- A reaction announces nothing. -/
theorem announces_carryOut {α : Type} (c : Connection γ τ η ℓ) (on : Option Nat)
    (r : Reaction α) : Announces [] c (c.carryOut on r).2 := by
  induction r generalizing c with
  | done a => exact .refl c
  | print line next ih =>
    have hprinted : Announces [] c (c.note (.printed line)) := .of_silent_entry rfl rfl rfl
    exact hprinted.after_silence (ih _)
  | state next ih => exact ih _ c
  | send payload next ih => exact (announces_sendOn c on payload).after_silence (ih _ _)

/-- To close a transport announces nothing. -/
theorem announces_closeTransport (c : Connection γ τ η ℓ) (t : Nat) :
    Announces [] c (c.closeTransport t) :=
  .of_silent_entry rfl rfl rfl

/-- To disconnect announces nothing. -/
theorem announces_disconnect (c : Connection γ τ η ℓ) : Announces [] c c.disconnect := by
  unfold disconnect
  split
  · exact announces_closeTransport c _
  · exact .refl c

variable [Listener ℓ]

/-- What the listener is told is announced if it is more than a state. -/
theorem announces_tell (c : Connection γ τ η ℓ) (t : Nat) (on : Option Nat) (news : News) :
    Announces ([Entry.told t news c.standing].filter Entry.isAnnouncement) c
      (c.tell t on news).2 := by
  have htold : Announces ([Entry.told t news c.standing].filter Entry.isAnnouncement) c
      (c.note (.told t news c.standing)) := .of_entry rfl rfl
  have hcarry := htold.then_silence (announces_carryOut (c.note (.told t news c.standing)) on
    (Listener.notify news (c.note (.told t news c.standing)).listener))
  simp only [tell]
  generalize (c.note (.told t news c.standing)).carryOut on
    (Listener.notify news (c.note (.told t news c.standing)).listener) = result at hcarry ⊢
  have hset : Announces ([Entry.told t news c.standing].filter Entry.isAnnouncement) c
      (result.2.setListener result.1.2) := ⟨hcarry.queue, hcarry.journal⟩
  split
  · exact hset
  · exact hset.then_silence (.of_silent_entry (x := .unheard t news) rfl rfl rfl)

/-- To tell a state announces nothing. -/
theorem announces_tellState (c : Connection γ τ η ℓ) (t : Nat) :
    Announces [] c (c.tellState t).2 := by
  unfold tellState
  split
  · exact announces_tell c t c.shared (.state (c.stateOn (some t)))
  · exact .refl c

/-- To connect announces nothing but a state. -/
theorem announces_connect [Connector γ τ] (c : Connection γ τ η ℓ) :
    Announces [] c c.connect.2 := by
  by_cases hc : c.state = .closed
  · cases hk : Connector.connect c.url c.connector with
    | mk result k =>
      cases result with
      | error e =>
        rw [connect_of_error hc hk]
        exact ⟨rfl, (List.append_nil _).symm⟩
      | ok t =>
        have hmade : Announces [] c (c.install t k) := .of_silent_entry rfl rfl rfl
        have htold := hmade.after_silence (announces_tellState (c.install t k) c.transports.length)
        rw [connect_of_closed hc hk]
        split
        · exact htold
        · exact htold.after_silence (announces_closeTransport _ _)
  · rw [connect_of_not_closed hc]
    exact .refl c

/-! ## Events -/

/-- What the listener is told after the state of transport `t`, if it copes
with that. -/
def toldAfterState (c : Connection γ τ η ℓ) (t : Nat) (news : News) : List Entry :=
  if (c.tellState t).1 then
    [Entry.told t news (c.tellState t).2.standing].filter Entry.isAnnouncement
  else []

/-- What comes after a state is announced if the listener copes with the
state. -/
theorem announces_tellThen (c : Connection γ τ η ℓ) (t : Nat) (on : Option Nat) (news : News) :
    Announces (c.toldAfterState t news) c (c.tellThen t on news).2 := by
  have hstate := announces_tellState c t
  unfold tellThen toldAfterState
  split
  · exact hstate.after_silence (announces_tell _ t on news)
  · exact hstate

/-- What the listener is told of an event besides the state of its
transport. -/
def announced (c : Connection γ τ η ℓ) (e : Event) : List Entry :=
  match e.kind with
  | .opened => if c.own = some e.transport then c.toldAfterState e.transport .opened else []
  | .message _ => []
  | .closed code reason => c.toldAfterState e.transport (.closed code reason)
  | .failed message => c.toldAfterState e.transport (.failed message)

/-- An opening is announced as `announced` says. -/
theorem announces_handleOpened (c : Connection γ τ η ℓ) (t : Nat) :
    Announces (c.announced ⟨t, .opened⟩) c (c.handleOpened t) := by
  by_cases hown : c.own = some t
  · have htold := announces_tellThen c t (some t) .opened
    simp only [announced, hown, if_true]
    rw [handleOpened_eq hown]
    split
    · exact htold
    · exact htold.then_silence (announces_closeTransport _ t)
  · simp only [announced, hown, if_false]
    rw [handleOpened, if_pos hown]
    exact announces_closeTransport c t

variable [MessageHandler η]

omit [Listener ℓ] in
/-- A message announces nothing. -/
theorem announces_handleMessage (c : Connection γ τ η ℓ) (text : String) :
    Announces [] c (c.handleMessage text).2 := by
  unfold handleMessage
  split
  · exact .refl c
  · next message _ =>
    have hcarry := announces_carryOut c c.shared (MessageHandler.handle message c.handler)
    exact ⟨hcarry.queue, hcarry.journal⟩

/-- An event is announced as `announced` says, and leaves the queue alone. -/
theorem announces_handleEvent (c : Connection γ τ η ℓ) (e : Event) :
    Announces (c.announced e) c (c.handleEvent e).2 := by
  obtain ⟨t, kind⟩ := e
  cases kind with
  | opened => exact announces_handleOpened c t
  | message text => exact announces_handleMessage c text
  | closed code reason =>
    have htold := announces_tellThen c t c.shared (.closed code reason)
    simp only [handleEvent, handleClosed_eq]
    exact htold
  | failed message =>
    have htold := announces_tellThen c t c.shared (.failed message)
    simp only [handleEvent, handleFailed_eq]
    exact htold.then_silence (announces_closeTransport _ t)

/-! ## Runs -/

/-- The event that an action has the connection handle, and the connection
at that moment. -/
def handling? (c : Connection γ τ η ℓ) :
    Action γ τ η ℓ → Option (Event × Connection γ τ η ℓ)
  | .handleEvent e => some (e, c)
  | .processNext => c.nextEvent?
  | _ => none

variable [Connector γ τ]

/-- An action that has an event handled does what handling it does. -/
theorem act_of_handling {c d : Connection γ τ η ℓ} {a : Action γ τ η ℓ} {e : Event}
    (h : c.handling? a = some (e, d)) : c.act a = d.handleEvent e := by
  cases a with
  | handleEvent e' =>
    cases Option.some.inj h
    rfl
  | processNext =>
    have hnext : c.nextEvent? = some (e, d) := h
    rw [act, processNext?, hnext]
    rfl
  | _ => contradiction

omit [Transport τ] [Listener ℓ] [MessageHandler η] [Connector γ τ] in
/-- An event is handed over, or it is the oldest one that waits. -/
theorem handling_cases {c d : Connection γ τ η ℓ} {a : Action γ τ η ℓ} {e : Event}
    (h : c.handling? a = some (e, d)) :
    (a = .handleEvent e ∧ d = c) ∨
      ∃ queue, c.queue = e :: queue ∧ d = { c with queue := queue } := by
  cases a with
  | handleEvent e' =>
    cases Option.some.inj h
    exact .inl ⟨rfl, rfl⟩
  | processNext =>
    simp only [handling?, nextEvent?] at h
    split at h
    · contradiction
    · next queue hqueue =>
      cases Option.some.inj h
      exact .inr ⟨queue, hqueue, rfl⟩
  | _ => contradiction

omit [Transport τ] [Listener ℓ] [MessageHandler η] [Connector γ τ] in
/-- To take an event up changes no more than the events that wait. -/
theorem eq_of_handling {c d : Connection γ τ η ℓ} {a : Action γ τ η ℓ} {e : Event}
    (h : c.handling? a = some (e, d)) : ∃ queue, d = { c with queue := queue } := by
  obtain ⟨-, rfl⟩ | ⟨queue, -, rfl⟩ := handling_cases h
  · exact ⟨d.queue, rfl⟩
  · exact ⟨queue, rfl⟩

/-- Besides the handling of events, only the report of one changes the
queue. -/
theorem announces_act_of_no_event {a : Action γ τ η ℓ} (h : c.handling? a = none) :
    ∃ reported : List Event, (∀ e ∈ reported, a = .emit e) ∧
      Announces [] { c with queue := c.queue ++ reported } (c.act a).2 := by
  have hquiet : ∀ {d}, Announces [] c d → ∃ reported : List Event, (∀ e ∈ reported, a = .emit e) ∧
      Announces [] { c with queue := c.queue ++ reported } d := fun hd =>
    ⟨[], List.forall_mem_nil _, hd.queue.trans (List.append_nil _).symm, hd.journal⟩
  cases a with
  | connect => exact hquiet (announces_connect c)
  | disconnect => exact hquiet (announces_disconnect c)
  | drop =>
    apply hquiet
    have hdisconnect := announces_disconnect c
    simp only [act, drop]
    split
    · exact .refl c
    · exact ⟨hdisconnect.queue, hdisconnect.journal⟩
  | send payload => exact hquiet (announces_sendOn c _ payload)
  | senderSend payload => exact hquiet (announces_sendOn c _ payload)
  | emit e =>
    simp only [act, emit]
    split
    · exact hquiet (.refl c)
    · exact ⟨[e], by simp, rfl, (List.append_nil _).symm⟩
  | processNext =>
    have hempty : c.nextEvent? = none := h
    rw [act, processNext?, hempty]
    exact hquiet (.refl c)
  | handleEvent e => contradiction
  | setListener listener => exact hquiet ⟨rfl, (List.append_nil _).symm⟩
  | move t f => exact hquiet ⟨rfl, (List.append_nil _).symm⟩
  | arrange f => exact hquiet ⟨rfl, (List.append_nil _).symm⟩
  | instruct f => exact hquiet ⟨rfl, (List.append_nil _).symm⟩

/-- Only the handling of an event tells of more than a state. -/
theorem announcements_act (c : Connection γ τ η ℓ) (a : Action γ τ η ℓ) :
    announcements (c.act a).2.journal = announcements c.journal ++
      ((c.handling? a).map fun x => x.2.announced x.1).getD [] := by
  cases h : c.handling? a with
  | none =>
    obtain ⟨reported, -, hact⟩ := announces_act_of_no_event h
    exact hact.journal
  | some x =>
    obtain ⟨e, d⟩ := x
    have hevent := announces_handleEvent d e
    obtain ⟨queue, rfl⟩ := eq_of_handling h
    rw [act_of_handling h]
    exact hevent.journal

/-- What waits after an action waited before it or was reported by it. -/
theorem mem_queue_act {a : Action γ τ η ℓ} {e : Event} (he : e ∈ (c.act a).2.queue) :
    e ∈ c.queue ∨ a = .emit e := by
  cases h : c.handling? a with
  | none =>
    obtain ⟨reported, hreported, hact⟩ := announces_act_of_no_event h
    rw [hact.queue, List.mem_append] at he
    exact he.imp id (hreported e)
  | some x =>
    obtain ⟨e', d⟩ := x
    rw [act_of_handling h, (announces_handleEvent d e').queue] at he
    obtain ⟨-, rfl⟩ | ⟨queue, hqueue, rfl⟩ := handling_cases h
    · exact .inl he
    · exact .inl (hqueue ▸ List.mem_cons_of_mem e' he)

end Connection

end PushRelay
