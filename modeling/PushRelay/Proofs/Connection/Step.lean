import Mathlib.Logic.Relation
import PushRelay.Proofs.Connection.Quiet

/-!
# PushRelay.Proofs.Connection.Step

What happens to a connection, one thing at a time.

An action of a run is a chain of small steps: a transport is made, the
listener is told something, a frame is handed over, a transport is asked to
close.  `Step` lists them, each with what is known when it is taken, and
`steps_act` says that every action is such a chain, but for a transport
that changes by itself.  An invariant of all runs is then one case a kind
of step (`after_invariant`), and it holds in the course of an action too.
-/

namespace PushRelay

namespace Connection

variable {γ τ η ℓ : Type}

/-- Enters a new transport, which is the current one from now on. -/
def install (c : Connection γ τ η ℓ) (t : τ) (k : γ) : Connection γ τ η ℓ :=
  { c with
    connector := k
    transports := c.transports ++ [t]
    own := some c.transports.length
    shared := some c.transports.length }.note (.created c.transports.length)

/-- After that a transport is one of the older ones or the new one. -/
theorem getElem?_install_cases {c : Connection γ τ η ℓ} {x y : τ} {k : γ} {i : Nat}
    (hy : (c.install x k).transports[i]? = some y) :
    c.transports[i]? = some y ∨ i = c.transports.length ∧ y = x := by
  rw [install, note, List.getElem?_append] at hy
  split at hy
  · exact .inl hy
  · rw [List.getElem?_singleton] at hy
    split at hy
    · exact .inr ⟨by omega, (Option.some.inj hy).symm⟩
    · contradiction

variable [Transport τ]

/-- What must be so when the listener is told something of transport `t`. -/
def MayTell (c : Connection γ τ η ℓ) (t : Nat) : News → Prop
  | .state s => c.own = some t ∧ s = c.stateOn (some t)
  | .opened => c.own = some t
  | .closed _ _ | .failed _ => True

/-- One thing that happens to a connection. -/
inductive Step [Connector γ τ] : Connection γ τ η ℓ → Connection γ τ η ℓ → Prop
  | created {c : Connection γ τ η ℓ} {t : τ} {k : γ} (closed : c.state = .closed)
      (made : Connector.connect c.url c.connector = (.ok t, k)) : Step c (c.install t k)
  | told {c : Connection γ τ η ℓ} {t : Nat} {news : News} (may : c.MayTell t news) :
      Step c (c.note (.told t news c.standing))
  | unheard (c : Connection γ τ η ℓ) (t : Nat) (news : News) : Step c (c.note (.unheard t news))
  | sent {c : Connection γ τ η ℓ} {i : Nat} {t : τ} (frame : String)
      (there : c.transports[i]? = some t) (opened : Transport.state t = .opened) :
      Step c ({ c with transports := c.transports.set i (Transport.send frame t).2 }.note
        (.sent i frame (Transport.send frame t).1.isOk))
  | closed (c : Connection γ τ η ℓ) (t : Nat) : Step c (c.closeTransport t)
  | printed (c : Connection γ τ η ℓ) (line : Line) : Step c (c.note (.printed line))
  | connector (c : Connection γ τ η ℓ) (k : γ) : Step c { c with connector := k }
  | handler (c : Connection γ τ η ℓ) (h : η) : Step c { c with handler := h }
  | listener (c : Connection γ τ η ℓ) (l : ℓ) : Step c (c.setListener l)
  | queue (c : Connection γ τ η ℓ) (q : List Event) : Step c { c with queue := q }
  | dropped (c : Connection γ τ η ℓ) : Step c { c with dropped := true }

/-- A chain of such things. -/
abbrev Steps [Connector γ τ] : Connection γ τ η ℓ → Connection γ τ η ℓ → Prop :=
  Relation.ReflTransGen Step

/-! ## Actions as chains of steps -/

variable [Connector γ τ]

/-- To send is one step, or none if the transport is not open. -/
theorem steps_sendOn (c : Connection γ τ η ℓ) (on : Option Nat) (payload : Outbound) :
    Steps c (c.sendOn on payload).2 := by
  unfold sendOn
  split
  · exact .refl
  · split
    · exact .refl
    · next t ht =>
      split
      · exact .refl
      · next ho =>
        have hopened : Transport.state t = .opened := Decidable.not_not.mp ho
        split
        · exact .refl
        · exact .single (.sent _ ht hopened)

/-- A reaction is a chain of lines and sends. -/
theorem steps_carryOut {α : Type} (c : Connection γ τ η ℓ) (on : Option Nat) (r : Reaction α) :
    Steps c (c.carryOut on r).2 := by
  induction r generalizing c with
  | done a => exact .refl
  | print line next ih => exact .head (.printed c line) (ih _)
  | state next ih => exact ih _ _
  | send payload next ih => exact (steps_sendOn c on payload).trans (ih _ _)

variable [Listener ℓ]

/-- What follows on telling the listener: it reacts, and may fail. -/
theorem steps_react (c : Connection γ τ η ℓ) (t : Nat) (on : Option Nat) (news : News) :
    Steps (c.note (.told t news c.standing)) (c.tell t on news).2 := by
  have hcarry := steps_carryOut (c.note (.told t news c.standing)) on
    (Listener.notify news c.listener)
  have hset := hcarry.tail (.listener _
    ((c.note (.told t news c.standing)).carryOut on (Listener.notify news c.listener)).1.2)
  simp only [tell]
  split
  · exact hset
  · exact hset.tail (.unheard _ t news)

/-- To tell the listener is an entry, its reaction and perhaps a failure. -/
theorem steps_tell {c : Connection γ τ η ℓ} {t : Nat} {news : News} (may : c.MayTell t news)
    (on : Option Nat) : Steps c (c.tell t on news).2 :=
  .head (.told may) (steps_react c t on news)

/-- To tell a state is a chain of steps, as only that of the current transport
is told. -/
theorem steps_tellState (c : Connection γ τ η ℓ) (t : Nat) : Steps c (c.tellState t).2 := by
  unfold tellState
  split
  · next hown =>
    have hmay : c.MayTell t (.state (c.stateOn (some t))) := ⟨hown, rfl⟩
    exact steps_tell hmay _
  · exact .refl

/-- To connect does nothing while the connection is not closed. -/
theorem connect_of_not_closed {c : Connection γ τ η ℓ} (hc : c.state ≠ .closed) :
    c.connect = (.ok (), c) := by
  rw [connect, if_pos hc]

/-- Where the connector fails, it alone changes. -/
theorem connect_of_error {c : Connection γ τ η ℓ} {e : RelayError} {k : γ} (hc : c.state = .closed)
    (hk : Connector.connect c.url c.connector = (.error e, k)) :
    c.connect = (.error e, { c with connector := k }) := by
  simp only [connect, hc, ne_eq, not_true_eq_false, if_false, hk]

/-- A new transport is entered and its state told, and a listener that fails
has it closed. -/
theorem connect_of_closed {c : Connection γ τ η ℓ} {t : τ} {k : γ} (hc : c.state = .closed)
    (hk : Connector.connect c.url c.connector = (.ok t, k)) :
    c.connect = (.ok (),
      if ((c.install t k).tellState c.transports.length).1
      then ((c.install t k).tellState c.transports.length).2
      else ((c.install t k).tellState c.transports.length).2.closeTransport
        c.transports.length) := by
  simp only [connect, hc, ne_eq, not_true_eq_false, if_false, hk]
  rfl

/-- To connect is a chain of steps. -/
theorem steps_connect (c : Connection γ τ η ℓ) : Steps c c.connect.2 := by
  by_cases hc : c.state = .closed
  · cases hk : Connector.connect c.url c.connector with
    | mk result k =>
      cases result with
      | error e =>
        rw [connect_of_error hc hk]
        exact .single (.connector c k)
      | ok t =>
        rw [connect_of_closed hc hk]
        have hmade : Steps c (c.install t k) := .single (.created hc hk)
        have htold := hmade.trans (steps_tellState (c.install t k) c.transports.length)
        split
        · exact htold
        · exact htold.tail (.closed _ _)
  · rw [connect_of_not_closed hc]

omit [Listener ℓ] in
/-- To disconnect is at most one step. -/
theorem steps_disconnect (c : Connection γ τ η ℓ) : Steps c c.disconnect := by
  unfold disconnect
  split
  · exact .single (.closed c _)
  · exact .refl

/-- To handle an opening is a chain of steps. -/
theorem steps_handleOpened (c : Connection γ τ η ℓ) (t : Nat) : Steps c (c.handleOpened t) := by
  by_cases hown : c.own = some t
  · rw [handleOpened_of_current hown]
    have hmay : (c.tellState t).2.MayTell t .opened := by
      rw [MayTell, (quiet_tellState c t).own]
      exact hown
    extract_lets told
    have htold : Steps c told.2 := by
      simp only [told]
      split
      · exact (steps_tellState c t).trans (steps_tell hmay _)
      · exact steps_tellState c t
    split
    · exact htold
    · exact htold.tail (.closed _ t)
  · rw [handleOpened, if_pos hown]
    exact .single (.closed c t)

/-- To handle a closing is a chain of steps. -/
theorem steps_handleClosed (c : Connection γ τ η ℓ) (t : Nat) (code : Option Nat)
    (reason : String) : Steps c (c.handleClosed t code reason) := by
  unfold handleClosed
  dsimp only
  split
  · have hmay : (c.tellState t).2.MayTell t (.closed code reason) := trivial
    exact (steps_tellState c t).trans (steps_tell hmay _)
  · exact steps_tellState c t

/-- To handle a failure is a chain of steps. -/
theorem steps_handleFailed (c : Connection γ τ η ℓ) (t : Nat) (message : String) :
    Steps c (c.handleFailed t message) := by
  unfold handleFailed
  dsimp only
  split
  · have hmay : (c.tellState t).2.MayTell t (.failed message) := trivial
    exact ((steps_tellState c t).trans (steps_tell hmay _)).tail (.closed _ t)
  · exact (steps_tellState c t).tail (.closed _ t)

variable [MessageHandler η]

omit [Listener ℓ] in
/-- To handle a message is a chain of steps. -/
theorem steps_handleMessage (c : Connection γ τ η ℓ) (text : String) :
    Steps c (c.handleMessage text).2 := by
  unfold handleMessage
  split
  · exact .refl
  · exact (steps_carryOut c _ _).tail (.handler _ _)

/-- To handle any event is a chain of steps. -/
theorem steps_handleEvent (c : Connection γ τ η ℓ) (e : Event) : Steps c (c.handleEvent e).2 := by
  unfold handleEvent
  split
  · exact steps_handleOpened c _
  · exact steps_handleMessage c _
  · exact steps_handleClosed c _ _ _
  · exact steps_handleFailed c _ _

/-- Every action is a chain of steps, but for a transport that changes by
itself. -/
theorem steps_act (c : Connection γ τ η ℓ) (a : Action γ τ η ℓ) (ha : ∀ t f, a ≠ .move t f) :
    Steps c (c.act a).2 := by
  cases a with
  | connect => exact steps_connect c
  | disconnect => exact steps_disconnect c
  | drop =>
    simp only [act, drop]
    split
    · exact .refl
    · exact (steps_disconnect c).tail (.dropped _)
  | send payload => exact steps_sendOn c _ payload
  | senderSend payload => exact steps_sendOn c _ payload
  | setListener listener => exact .single (.listener c listener)
  | handleEvent e => exact steps_handleEvent c e
  | emit e =>
    simp only [act, emit]
    split
    · exact .refl
    · exact .single (.queue c _)
  | processNext =>
    simp only [act, processNext?, nextEvent?]
    split
    · exact .refl
    · exact .head (.queue c _) (steps_handleEvent _ _)
  | move t f => exact absurd rfl (ha t f)
  | arrange f => exact .single (.connector c _)
  | instruct f => exact .single (.handler c _)

/-! ## Invariants -/

omit [Listener ℓ] [MessageHandler η] in
/-- What every step keeps is kept by a chain of them. -/
theorem steps_invariant {I : Connection γ τ η ℓ → Prop} (step : ∀ c d, Step c d → I c → I d)
    {c d : Connection γ τ η ℓ} (h : Steps c d) (hc : I c) : I d := by
  induction h with
  | refl => exact hc
  | tail _ last ih => exact step _ _ last ih

/-- What every step keeps, and every transport that changes by itself in
the run, is kept by the run. -/
theorem after_invariant {I : Connection γ τ η ℓ → Prop} (step : ∀ c d, Step c d → I c → I d)
    {c : Connection γ τ η ℓ} {acts : List (Action γ τ η ℓ)}
    (move : ∀ c t f, .move t f ∈ acts → I c → I (c.move t f)) (start : I c) :
    I (c.after acts) := by
  apply after_induction start
  intro c a ha hc
  by_cases hm : ∃ t f, a = .move t f
  · obtain ⟨t, f, rfl⟩ := hm
    exact move c t f ha hc
  · have hsteps := steps_act c a fun t f h => hm ⟨t, f, h⟩
    exact steps_invariant step hsteps hc

/-- The current transport is the newest one, for senders too. -/
structure Newest (c : Connection γ τ η ℓ) : Prop where
  own_eq_some_iff : ∀ t, c.own = some t ↔ t + 1 = c.transports.length
  shared_eq_own : c.shared = c.own

omit [Listener ℓ] [MessageHandler η] [Connector γ τ] [Transport τ] in
/-- After the current transport none was made. -/
theorem Newest.length_of_own {c : Connection γ τ η ℓ} (hc : c.Newest) {t : Nat}
    (hown : c.own = some t) : t + 1 = c.transports.length :=
  (hc.own_eq_some_iff t).mp hown

omit [Listener ℓ] [MessageHandler η] [Connector γ τ] [Transport τ] in
/-- The current transport is there. -/
theorem Newest.exists_transport {c : Connection γ τ η ℓ} (hc : c.Newest) {t : Nat}
    (hown : c.own = some t) : ∃ x, c.transports[t]? = some x := by
  have hlength := hc.length_of_own hown
  have ht : t < c.transports.length := by omega
  exact ⟨_, List.getElem?_eq_getElem ht⟩

omit [Listener ℓ] [MessageHandler η] in
/-- In every step the current transport is the newest. -/
theorem newest_step {c d : Connection γ τ η ℓ} (h : Step c d) (hc : c.Newest) : d.Newest := by
  cases h with
  | created =>
    have hown : ∀ t, some c.transports.length = some t ↔ t + 1 = c.transports.length + 1 := by
      intro t
      simp [eq_comm]
    exact ⟨by simpa [install, note] using hown, rfl⟩
  | sent => exact ⟨by simpa [note] using hc.own_eq_some_iff, hc.shared_eq_own⟩
  | closed =>
    exact ⟨by simpa [closeTransport, move, note] using hc.own_eq_some_iff, hc.shared_eq_own⟩
  | told | unheard | printed | connector | handler | listener | queue | dropped =>
    exact ⟨hc.own_eq_some_iff, hc.shared_eq_own⟩

omit [Listener ℓ] [MessageHandler η] [Connector γ τ] [Transport τ] in
/-- It stays so when a transport changes by itself. -/
theorem Newest.move {c : Connection γ τ η ℓ} (hc : c.Newest) (t : Nat) (f : τ → τ) :
    (c.move t f).Newest :=
  ⟨fun i => by simpa [Connection.move] using hc.own_eq_some_iff i, hc.shared_eq_own⟩

omit [Listener ℓ] [MessageHandler η] [Connector γ τ] [Transport τ] in
/-- A new connection has no transport and no current one. -/
theorem newest_of_ofUrl {url : String} {k : γ} {h : η} {l : ℓ} {c : Connection γ τ η ℓ}
    (hstart : ofUrl url k h l = .ok c) : c.Newest := by
  obtain ⟨-, rfl⟩ := ofUrl_eq_ok_iff.mp hstart
  exact ⟨fun t => by simp, rfl⟩

/-- In every action the current transport is the newest. -/
theorem newest_act {c : Connection γ τ η ℓ} (hc : c.Newest) (a : Action γ τ η ℓ) :
    (c.act a).2.Newest := by
  have hafter : (c.after [a]).Newest :=
    after_invariant (fun _ _ => newest_step) (fun _ t f _ hd => hd.move t f) hc
  exact hafter

omit [Listener ℓ] [MessageHandler η] in
/-- The journal is only ever added to. -/
theorem journal_prefix_step {c d : Connection γ τ η ℓ} (h : Step c d) :
    c.journal <+: d.journal := by
  cases h with
  | created | told | unheard | sent | closed | printed => exact List.prefix_append ..
  | connector | handler | listener | queue | dropped => exact List.prefix_rfl

omit [Listener ℓ] [MessageHandler η] in
/-- Nothing is ever taken out of the journal. -/
theorem journal_prefix_steps {c d : Connection γ τ η ℓ} (h : Steps c d) :
    c.journal <+: d.journal :=
  steps_invariant (I := fun d => c.journal <+: d.journal)
    (fun _ _ step hc => hc.trans (journal_prefix_step step)) h List.prefix_rfl

/-- Over an action, a transport that changes by itself included. -/
theorem journal_prefix_act (c : Connection γ τ η ℓ) (a : Action γ τ η ℓ) :
    c.journal <+: (c.act a).2.journal := by
  by_cases hm : ∃ t f, a = .move t f
  · obtain ⟨t, f, rfl⟩ := hm
    exact List.prefix_rfl
  · exact journal_prefix_steps (steps_act c a fun t f h => hm ⟨t, f, h⟩)

end Connection

end PushRelay
